/-
  Pseudocode.Proofs.Lexicon.Representations — what stands for a set of kinds.

  A set of kinds is made by operations, and the operations say which set is meant
  (`Making.members`). What is held in its place is something else, and it is faithful when every
  question about it is answered as for the set: what is in it, in which order it is listed, whether
  it is empty, whether two of them meet, whether two of them are equal.

  A bit vector with a bit for each kind is faithful at once, since two vectors with the same members
  are the same vector. A machine word of 64 bits has 18 bits that belong to no kind. A word in which
  one of them was set would have the members of another word and not be equal to it, and it could
  have no members and not be zero. So words are faithful only because of what they were made by: an
  operation on words does what the operation on vectors does, and a vector that is widened to a word
  has zeros in those bits (`embeds_words`).

  Proved:
  (1) Bit vectors are faithful (`faithful_bitVectors`).
  (2) A representation that a faithful one is embedded in is faithful itself
      (`Representation.Embeds.faithful`); bit vectors are embedded in machine words
      (`embeds_words`).
  (3) So both are faithful, and no operation sets a bit that belongs to no kind
      (`representations_faithful`).
-/

import Pseudocode.Lexicon.KindSet
import Mathlib.Data.Set.Basic

namespace Pseudocode

/-! ## Sets and what stands for them -/

/-- How a set of kinds is made, operation by operation. -/
inductive Making where
  | empty
  | ofList (kinds : List Kind)
  | matching (p : Kind → Bool)
  | insert (made : Making) (kind : Kind)
  | union (left right : Making)
  | inter (left right : Making)

/-- The set that is made. -/
def Making.members : Making → Set Kind
  | empty => ∅
  | ofList kinds => {k | k ∈ kinds}
  | matching p => {k | p k = true}
  | insert made kind => {kind} ∪ made.members
  | union left right => left.members ∪ right.members
  | inter left right => left.members ∩ right.members

/-- Values of a type that stand for sets of kinds: how they are made, and what they are asked. -/
structure Representation (σ : Type) where
  empty : σ
  ofList : List Kind → σ
  matching : (Kind → Bool) → σ
  insert : σ → Kind → σ
  union : σ → σ → σ
  inter : σ → σ → σ
  contains : σ → Kind → Bool
  toList : σ → List Kind
  isEmpty : σ → Bool
  intersects : σ → σ → Bool

namespace Representation

variable {σ τ : Type}

/-- What stands for the set that is made. -/
def make (r : Representation σ) : Making → σ
  | .empty => r.empty
  | .ofList kinds => r.ofList kinds
  | .matching p => r.matching p
  | .insert made kind => r.insert (r.make made) kind
  | .union left right => r.union (r.make left) (r.make right)
  | .inter left right => r.inter (r.make left) (r.make right)

/-- What stands for a set answers for it, however the set was made. -/
structure Faithful (r : Representation σ) : Prop where
  /-- It has the members of the set. -/
  contains_iff : ∀ m k, r.contains (r.make m) k = true ↔ k ∈ m.members
  /-- The members are listed, -/
  mem_toList_iff : ∀ m k, k ∈ r.toList (r.make m) ↔ k ∈ m.members
  /-- each of them once, -/
  nodup_toList : ∀ m, (r.toList (r.make m)).Nodup
  /-- in declaration order. -/
  toList_sublist : ∀ m, (r.toList (r.make m)).Sublist Kind.all
  /-- The set can be made again from its list. -/
  ofList_toList : ∀ m, r.ofList (r.toList (r.make m)) = r.make m
  isEmpty_iff : ∀ m, r.isEmpty (r.make m) = true ↔ m.members = ∅
  /-- Two of them meet where the sets have a common member, -/
  intersects_iff : ∀ m n, r.intersects (r.make m) (r.make n) = true ↔
    (m.members ∩ n.members).Nonempty
  /-- and are equal where the sets are. -/
  eq_iff : ∀ m n, r.make m = r.make n ↔ m.members = n.members
  /-- Order and repeats do not matter for what is inserted. -/
  insert_eq : ∀ m (ks ks' : List Kind), (∀ k, k ∈ ks ↔ k ∈ ks') →
    ks.foldl r.insert (r.make m) = ks'.foldl r.insert (r.make m)

/-- A representation is found in another one: it does not matter in which of them a set is made, nor
in which of them it is asked. -/
structure Embeds (r : Representation σ) (s : Representation τ) (f : σ → τ) : Prop where
  injective : Function.Injective f
  empty : f r.empty = s.empty
  ofList : ∀ ks, f (r.ofList ks) = s.ofList ks
  matching : ∀ p, f (r.matching p) = s.matching p
  insert : ∀ a k, f (r.insert a k) = s.insert (f a) k
  union : ∀ a b, f (r.union a b) = s.union (f a) (f b)
  inter : ∀ a b, f (r.inter a b) = s.inter (f a) (f b)
  contains : ∀ a k, s.contains (f a) k = r.contains a k
  toList : ∀ a, s.toList (f a) = r.toList a
  isEmpty : ∀ a, s.isEmpty (f a) = r.isEmpty a
  intersects : ∀ a b, s.intersects (f a) (f b) = r.intersects a b

variable {r : Representation σ} {s : Representation τ} {f : σ → τ}

/-- What is made in the other one is found from what is made in the one. -/
theorem Embeds.make_eq (h : r.Embeds s f) (m : Making) : s.make m = f (r.make m) := by
  induction m with
  | empty => exact h.empty.symm
  | ofList kinds => exact (h.ofList kinds).symm
  | matching p => exact (h.matching p).symm
  | insert made kind ih => rw [make, make, ih, h.insert]
  | union left right ihl ihr => rw [make, make, ihl, ihr, h.union]
  | inter left right ihl ihr => rw [make, make, ihl, ihr, h.inter]

theorem Embeds.foldl_insert (h : r.Embeds s f) (ks : List Kind) (a : σ) :
    ks.foldl s.insert (f a) = f (ks.foldl r.insert a) :=
  List.foldl_hom f fun b k => (h.insert b k).symm

/-- A faithful representation makes the one that it is found in faithful. -/
theorem Embeds.faithful (h : r.Embeds s f) (faithful : r.Faithful) : s.Faithful := by
  constructor
  case contains_iff =>
    intro m k
    rw [h.make_eq, h.contains, faithful.contains_iff]
  case mem_toList_iff =>
    intro m k
    rw [h.make_eq, h.toList, faithful.mem_toList_iff]
  case nodup_toList =>
    intro m
    rw [h.make_eq, h.toList]
    exact faithful.nodup_toList m
  case toList_sublist =>
    intro m
    rw [h.make_eq, h.toList]
    exact faithful.toList_sublist m
  case ofList_toList =>
    intro m
    rw [h.make_eq, h.toList, ← h.ofList, faithful.ofList_toList]
  case isEmpty_iff =>
    intro m
    rw [h.make_eq, h.isEmpty, faithful.isEmpty_iff]
  case intersects_iff =>
    intro m n
    rw [h.make_eq, h.make_eq, h.intersects, faithful.intersects_iff]
  case eq_iff =>
    intro m n
    rw [h.make_eq, h.make_eq, h.injective.eq_iff, faithful.eq_iff]
  case insert_eq =>
    intro m ks ks' same
    rw [h.make_eq, h.foldl_insert, h.foldl_insert, faithful.insert_eq m ks ks' same]

end Representation

/-! ## Bit vectors -/

/-- Sets of kinds as bit vectors. -/
def bitVectors : Representation KindSet where
  empty := KindSet.empty
  ofList := KindSet.ofList
  matching := KindSet.matching
  insert := KindSet.insert
  union := KindSet.union
  inter := KindSet.inter
  contains := KindSet.contains
  toList := KindSet.toList
  isEmpty := KindSet.isEmpty
  intersects := KindSet.intersects

/-- A bit vector has the members of the set. -/
theorem contains_bitVectors (m : Making) (k : Kind) :
    (bitVectors.make m).contains k = true ↔ k ∈ m.members := by
  induction m with
  | empty => simp [Representation.make, bitVectors, Making.members]
  | ofList kinds => simp [Representation.make, bitVectors, Making.members]
  | matching p => simp [Representation.make, bitVectors, Making.members]
  | insert made kind ih =>
    show ((bitVectors.make made).insert kind).contains k = true ↔ _
    rw [KindSet.contains_insert, Bool.or_eq_true, ih, decide_eq_true_eq, or_comm, eq_comm]
    rfl
  | union left right ihl ihr =>
    show ((bitVectors.make left).union (bitVectors.make right)).contains k = true ↔ _
    rw [KindSet.contains_union, Bool.or_eq_true, ihl, ihr]
    rfl
  | inter left right ihl ihr =>
    show ((bitVectors.make left).inter (bitVectors.make right)).contains k = true ↔ _
    rw [KindSet.contains_inter, Bool.and_eq_true, ihl, ihr]
    rfl

/-- Bit vectors are equal when the sets are. -/
theorem bitVectors_eq_iff (m n : Making) :
    bitVectors.make m = bitVectors.make n ↔ m.members = n.members := by
  constructor
  · intro same
    ext k
    rw [← contains_bitVectors, ← contains_bitVectors, same]
  · intro same
    refine KindSet.ext_contains fun k => ?_
    rw [Bool.eq_iff_iff, contains_bitVectors, contains_bitVectors, same]

theorem faithful_bitVectors : bitVectors.Faithful := by
  constructor
  case contains_iff => exact contains_bitVectors
  case mem_toList_iff =>
    intro m k
    rw [← contains_bitVectors]
    exact KindSet.mem_toList
  case nodup_toList => exact fun m => KindSet.nodup_toList _
  case toList_sublist => exact fun m => List.filter_sublist
  case ofList_toList => exact fun m => KindSet.ofList_toList _
  case isEmpty_iff =>
    intro m
    rw [Set.eq_empty_iff_forall_notMem]
    simp only [← contains_bitVectors, Bool.not_eq_true]
    exact KindSet.isEmpty_iff
  case intersects_iff =>
    intro m n
    simp only [Set.Nonempty, Set.mem_inter_iff, ← contains_bitVectors]
    exact KindSet.intersects_iff
  case eq_iff => exact bitVectors_eq_iff
  case insert_eq =>
    intro m ks ks' same
    refine KindSet.ext_contains fun k => ?_
    show (ks.foldl KindSet.insert _).contains k = (ks'.foldl KindSet.insert _).contains k
    rw [KindSet.contains_foldl_insert, KindSet.contains_foldl_insert, decide_eq_decide.2 (same k)]

/-! ## Machine words -/

/-- A set of kinds in a machine word; bit `k.rank` is set when `k` is a member, and 18 bits belong to
no kind. -/
structure KindWord where
  bits : UInt64
  deriving DecidableEq, Repr

namespace KindWord

/-- The word with the bit of a kind. -/
def bit (k : Kind) : UInt64 := 1 <<< k.rank.toUInt64

def empty : KindWord := ⟨0⟩

def insert (w : KindWord) (k : Kind) : KindWord := ⟨w.bits ||| bit k⟩

def union (w v : KindWord) : KindWord := ⟨w.bits ||| v.bits⟩

def inter (w v : KindWord) : KindWord := ⟨w.bits &&& v.bits⟩

def contains (w : KindWord) (k : Kind) : Bool := w.bits &&& bit k != 0

def isEmpty (w : KindWord) : Bool := w.bits == 0

def intersects (w v : KindWord) : Bool := w.bits &&& v.bits != 0

def ofList (ks : List Kind) : KindWord := ks.foldl insert empty

def matching (p : Kind → Bool) : KindWord := ofList (Kind.all.filter p)

/-- Members in declaration order. -/
def toList (w : KindWord) : List Kind := Kind.all.filter w.contains

end KindWord

/-- Sets of kinds as machine words. -/
def machineWords : Representation KindWord where
  empty := KindWord.empty
  ofList := KindWord.ofList
  matching := KindWord.matching
  insert := KindWord.insert
  union := KindWord.union
  inter := KindWord.inter
  contains := KindWord.contains
  toList := KindWord.toList
  isEmpty := KindWord.isEmpty
  intersects := KindWord.intersects

/-- A bit vector, widened to a word with zeros. -/
def KindSet.word (s : KindSet) : KindWord := ⟨.ofBitVec (s.bits.setWidth 64)⟩

section Widening

variable (s t : KindSet) (k : Kind)

theorem word_injective : Function.Injective KindSet.word := by
  rintro ⟨b⟩ ⟨c⟩ same
  have widened : b.setWidth 64 = c.setWidth 64 :=
    congrArg (fun w : KindWord => w.bits.toBitVec) same
  have narrowed := congrArg (BitVec.setWidth 46) widened
  rw [BitVec.setWidth_setWidth_of_le b (by decide), BitVec.setWidth_setWidth_of_le c (by decide),
    BitVec.setWidth_eq, BitVec.setWidth_eq] at narrowed
  rw [narrowed]

/-- Widening sets no bit that belongs to no kind. -/
theorem getLsbD_word {i : Nat} (beyond : Kind.all.length ≤ i) :
    s.word.bits.toBitVec.getLsbD i = false := by
  have none : s.bits.getLsbD i = false := BitVec.getLsbD_of_ge _ _ beyond
  show (s.bits.setWidth 64).getLsbD i = false
  rw [BitVec.getLsbD_setWidth, none, Bool.and_false]

theorem word_union : (s.union t).word = s.word.union t.word := by
  show KindWord.mk (.ofBitVec ((s.bits ||| t.bits).setWidth 64)) = _
  rw [BitVec.setWidth_or]
  rfl

theorem word_inter : (s.inter t).word = s.word.inter t.word := by
  show KindWord.mk (.ofBitVec ((s.bits &&& t.bits).setWidth 64)) = _
  rw [BitVec.setWidth_and]
  rfl

/-- The bit of a kind is the set that has no other member. -/
theorem word_singleton : (KindSet.ofList [k]).word = ⟨KindWord.bit k⟩ := by
  cases k <;> rfl

theorem insert_eq_union : s.insert k = s.union (.ofList [k]) :=
  KindSet.ext_contains fun j => by simp [eq_comm]

theorem word_insert : (s.insert k).word = s.word.insert k := by
  rw [insert_eq_union, word_union, word_singleton]
  rfl

theorem word_ofList (ks : List Kind) : (KindSet.ofList ks).word = .ofList ks :=
  (List.foldl_hom KindSet.word fun u k => (word_insert u k).symm).symm

theorem isEmpty_word : s.word.isEmpty = s.isEmpty := by
  have zero : s.word = KindSet.empty.word ↔ s = .empty := word_injective.eq_iff
  cases s
  rw [Bool.eq_iff_iff]
  simpa [KindWord.isEmpty, KindSet.isEmpty, KindSet.word, KindSet.empty] using zero

theorem intersects_word : s.word.intersects t.word = s.intersects t := by
  rw [KindSet.intersects, ← isEmpty_word, word_inter]
  rfl

theorem contains_word : s.word.contains k = s.contains k := by
  have single : s.word.contains k = s.word.intersects ⟨KindWord.bit k⟩ := rfl
  rw [single, ← word_singleton, intersects_word, Bool.eq_iff_iff, KindSet.intersects_iff]
  simp

theorem toList_word : s.word.toList = s.toList := by
  rw [KindWord.toList, KindSet.toList]
  congr 1
  funext k
  exact contains_word s k

end Widening

/-- A bit vector is found among the machine words. -/
theorem embeds_words : bitVectors.Embeds machineWords KindSet.word where
  injective := word_injective
  empty := rfl
  ofList := word_ofList
  matching := fun p => word_ofList (Kind.all.filter p)
  insert := word_insert
  union := word_union
  inter := word_inter
  contains := contains_word
  toList := toList_word
  isEmpty := isEmpty_word
  intersects := intersects_word

/-- Sets of kinds are represented faithfully by bit vectors, and by machine words. A word is the bit
vector that is made by the same operations, widened by zeros: no bit is set that belongs to no
kind. -/
theorem representations_faithful :
    bitVectors.Faithful ∧ machineWords.Faithful ∧
      ∀ m, machineWords.make m = (bitVectors.make m).word ∧
        ∀ i, Kind.all.length ≤ i → (machineWords.make m).bits.toBitVec.getLsbD i = false := by
  refine ⟨faithful_bitVectors, embeds_words.faithful faithful_bitVectors, fun m => ?_⟩
  have widened := embeds_words.make_eq m
  refine ⟨widened, fun i beyond => ?_⟩
  rw [widened]
  exact getLsbD_word (bitVectors.make m) beyond

/-- The first kind and the last one take the lowest bit and the highest. -/
example : (KindWord.ofList [.comma, .programKw, .comma]).bits = 0x200000000001 := by decide

end Pseudocode
