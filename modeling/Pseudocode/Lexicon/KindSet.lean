/-
  Pseudocode.Lexicon.KindSet — finite sets of token kinds.

  A set is one bit vector with a bit for each kind, at the kind's rank. Membership is the view:
  every operation has one lemma that says what it does to `contains`, and two sets with the same
  members are equal (`KindSet.ext_contains`). `toList` shows the members in declaration order,
  which is the order in which a violated rule looks for the kind to name.
-/

import Pseudocode.Lexicon.Kind

namespace Pseudocode

/-- A set of kinds; bit `k.rank` is set when `k` is a member. -/
structure KindSet where
  bits : BitVec 46
  deriving DecidableEq, Repr

namespace KindSet

def empty : KindSet := ⟨0#46⟩

def contains (s : KindSet) (k : Kind) : Bool := s.bits.getLsbD k.rank

def insert (s : KindSet) (k : Kind) : KindSet := ⟨s.bits ||| BitVec.twoPow 46 k.rank⟩

def union (s t : KindSet) : KindSet := ⟨s.bits ||| t.bits⟩

def inter (s t : KindSet) : KindSet := ⟨s.bits &&& t.bits⟩

def isEmpty (s : KindSet) : Bool := s.bits = 0#46

def intersects (s t : KindSet) : Bool := !(s.inter t).isEmpty

/-- The set of the listed kinds; order and repeats do not matter. -/
def ofList (ks : List Kind) : KindSet := ks.foldl insert empty

/-- The set of the kinds that satisfy `p`. -/
def matching (p : Kind → Bool) : KindSet := ofList (Kind.all.filter p)

/-- Members in declaration order. -/
def toList (s : KindSet) : List Kind := Kind.all.filter s.contains

/-! ## Membership -/

@[simp] theorem contains_empty (k : Kind) : empty.contains k = false := by
  simp [empty, contains]

@[simp] theorem contains_insert (s : KindSet) (j k : Kind) :
    (s.insert j).contains k = (s.contains k || decide (j = k)) := by
  have lt := k.rank_lt
  have eq : j.rank = k.rank ↔ j = k := ⟨Kind.rank_injective, congrArg _⟩
  simp only [insert, contains, BitVec.getLsbD_or, BitVec.getLsbD_twoPow, eq]
  simp [Kind.rank_lt]

@[simp] theorem contains_union (s t : KindSet) (k : Kind) :
    (s.union t).contains k = (s.contains k || t.contains k) := by
  simp [union, contains]

@[simp] theorem contains_inter (s t : KindSet) (k : Kind) :
    (s.inter t).contains k = (s.contains k && t.contains k) := by
  simp [inter, contains]

theorem contains_foldl_insert (ks : List Kind) (s : KindSet) (k : Kind) :
    (ks.foldl insert s).contains k = (s.contains k || decide (k ∈ ks)) := by
  induction ks generalizing s with
  | nil => simp
  | cons j ks ih =>
    rw [List.foldl_cons, ih, contains_insert, Bool.or_assoc]
    congr 1
    by_cases h : j = k
    · simp [h]
    · simp [h, Ne.symm h]

@[simp] theorem contains_ofList (ks : List Kind) (k : Kind) :
    (ofList ks).contains k = decide (k ∈ ks) := by
  simp [ofList, contains_foldl_insert]

@[simp] theorem contains_matching (p : Kind → Bool) (k : Kind) : (matching p).contains k = p k := by
  simp [matching, Kind.mem_all]

/-- Sets with the same members are equal. -/
theorem ext_contains {s t : KindSet} (h : ∀ k, s.contains k = t.contains k) : s = t := by
  obtain ⟨b⟩ := s
  obtain ⟨c⟩ := t
  congr 1
  refine BitVec.eq_of_getLsbD_eq fun i hi => ?_
  obtain ⟨k, hk⟩ := Kind.exists_rank_eq hi
  have := h k
  rwa [contains, contains, hk] at this

theorem isEmpty_iff {s : KindSet} : s.isEmpty = true ↔ ∀ k, s.contains k = false := by
  refine ⟨fun h k => ?_, fun h => ?_⟩
  · have : s = empty := by cases s; simpa [isEmpty, empty] using h
    simp [this]
  · have : s = empty := ext_contains (by simpa using h)
    simp [this, isEmpty, empty]

theorem intersects_iff {s t : KindSet} :
    s.intersects t = true ↔ ∃ k, s.contains k = true ∧ t.contains k = true := by
  rw [intersects, Bool.not_eq_true', ← Bool.not_eq_true, isEmpty_iff]
  simp

@[simp] theorem mem_toList {s : KindSet} {k : Kind} : k ∈ s.toList ↔ s.contains k = true := by
  simp [toList, Kind.mem_all]

theorem nodup_toList (s : KindSet) : s.toList.Nodup := Kind.nodup_all.filter _

theorem ofList_toList (s : KindSet) : ofList s.toList = s :=
  ext_contains fun k => by simp

end KindSet

end Pseudocode
