/-
  Pseudocode.Text.Blank — blank characters and trimming.

  A blank is a character of the Unicode property White_Space; `trim` removes blanks from both
  ends of a text. `dropEndWhile` does at the end of a list what `List.dropWhile` does at its
  start.

  - `exists_dropEndWhile_append`, `getLast_dropEndWhile`: `dropEndWhile p` removes a suffix of
    members that satisfy `p`, and stops at the last member that does not.
  - `append_inj_of_all`, `append_inj_of_not_mem`: a list tells where its front of such members ends.
  - `trim_eq_self_iff`: a text is trimmed when no blank stands at either end; trimming leaves such a
    text (`trimmed_trim`).
-/

namespace Pseudocode.Text

/-- Characters of the Unicode property White_Space. -/
def isBlank (c : Char) : Bool :=
  let n := c.toNat
  (9 ≤ n && n ≤ 13) || n == 0x20 || n == 0x85 || n == 0xA0 || n == 0x1680 ||
    (0x2000 ≤ n && n ≤ 0x200A) || n == 0x2028 || n == 0x2029 || n == 0x202F || n == 0x205F ||
    n == 0x3000

/-- Removes the longest suffix whose members all satisfy `p`. -/
def dropEndWhile {α : Type} (p : α → Bool) : List α → List α
  | [] => []
  | a :: rest =>
    match dropEndWhile p rest with
    | [] => if p a then [] else [a]
    | kept => a :: kept

/-- Removes blanks from both ends. -/
def trim (cs : List Char) : List Char := dropEndWhile isBlank (cs.dropWhile isBlank)

section dropEndWhile

variable {α : Type} {p : α → Bool}

@[simp] theorem dropEndWhile_nil : dropEndWhile p [] = [] := rfl

theorem dropEndWhile_cons (a : α) (rest : List α) :
    dropEndWhile p (a :: rest) =
      if dropEndWhile p rest = [] ∧ p a = true then [] else a :: dropEndWhile p rest := by
  rw [dropEndWhile]
  cases h : dropEndWhile p rest <;> by_cases hp : p a = true <;> simp [hp]

/-- What is removed is a suffix that satisfies `p`. -/
theorem exists_dropEndWhile_append (p : α → Bool) (l : List α) :
    ∃ t, l = dropEndWhile p l ++ t ∧ ∀ a ∈ t, p a = true := by
  induction l with
  | nil => exact ⟨[], by simp⟩
  | cons a rest ih =>
    obtain ⟨t, eq, all⟩ := ih
    rw [dropEndWhile_cons]
    split
    · rename_i h
      refine ⟨a :: t, ?_, ?_⟩
      · rw [h.1] at eq
        simpa using eq
      · simpa [h.2] using all
    · exact ⟨t, by simpa using eq, all⟩

theorem dropEndWhile_eq_nil_iff {l : List α} :
    dropEndWhile p l = [] ↔ ∀ a ∈ l, p a = true := by
  induction l with
  | nil => simp
  | cons a rest ih =>
    rw [dropEndWhile_cons, List.forall_mem_cons, ← ih]
    constructor
    · intro h
      split at h
      · rename_i hp
        exact ⟨hp.2, hp.1⟩
      · simp at h
    · intro h
      simp [h]

/-- The last member that is left does not satisfy `p`. -/
theorem getLast_dropEndWhile {l : List α} (h : dropEndWhile p l ≠ []) :
    p ((dropEndWhile p l).getLast h) = false := by
  induction l with
  | nil => simp at h
  | cons a rest ih =>
    by_cases e : dropEndWhile p rest = []
    · by_cases hp : p a = true
      · simp [dropEndWhile_cons, e, hp] at h
      · simp [dropEndWhile_cons, e, hp]
    · simp [dropEndWhile_cons, e, List.getLast_cons, ih]

/-- Nothing is removed when the last member does not satisfy `p`. -/
theorem dropEndWhile_eq_self {l : List α} (h : ∀ a ∈ l.getLast?, p a = false) :
    dropEndWhile p l = l := by
  induction l with
  | nil => rfl
  | cons a rest ih =>
    cases rest with
    | nil =>
      have : p a = false := h a (by simp)
      simp [dropEndWhile, this]
    | cons b rest =>
      have e := ih (fun x hx => h x (by simpa [List.getLast?_cons_cons] using hx))
      rw [dropEndWhile_cons, e]
      simp

theorem dropEndWhile_append {t : List α} (h : ∀ a ∈ t, p a = true) (l : List α) :
    dropEndWhile p (l ++ t) = dropEndWhile p l := by
  induction l with
  | nil => exact dropEndWhile_eq_nil_iff.2 h
  | cons a rest ih => rw [List.cons_append, dropEndWhile_cons, dropEndWhile_cons, ih]

end dropEndWhile

/-! ## Where a front ends -/

section Front

variable {α : Type} {p : α → Bool} {u u' r r' : List α}

/-- Fronts of members that satisfy `p`, with rests that do not begin with such a member, are told by
the list. -/
theorem append_inj_of_all (hu : ∀ a ∈ u, p a = true) (hu' : ∀ a ∈ u', p a = true)
    (hr : ∀ a ∈ r.head?, p a = false) (hr' : ∀ a ∈ r'.head?, p a = false)
    (e : u ++ r = u' ++ r') : u = u' ∧ r = r' := by
  have stops {r : List α} (h : ∀ a ∈ r.head?, p a = false) : r.takeWhile p = [] := by
    cases r with
    | nil => rfl
    | cons a r => rw [List.takeWhile_cons, h a rfl]; rfl
  have fronts := congrArg (List.takeWhile p) e
  rw [List.takeWhile_append_of_pos hu, List.takeWhile_append_of_pos hu', stops hr, stops hr',
    List.append_nil, List.append_nil] at fronts
  subst fronts
  exact ⟨rfl, List.append_cancel_left e⟩

/-- What stands in front of the first member `c`, and behind it, is told by the list. -/
theorem append_inj_of_not_mem [DecidableEq α] {c : α} (h : c ∉ u) (h' : c ∉ u')
    (e : u ++ c :: r = u' ++ c :: r') : u = u' ∧ r = r' := by
  have other {u : List α} (h : c ∉ u) : ∀ a ∈ u, decide (a ≠ c) = true := by
    intro a mem
    exact decide_eq_true fun same => h (same ▸ mem)
  obtain ⟨front, rest⟩ := append_inj_of_all (other h) (other h') (by simp) (by simp) e
  exact ⟨front, (List.cons.inj rest).2⟩

end Front

/-! ## Trimmed texts -/

/-- No blank stands at either end of a text. -/
structure Trimmed (cs : List Char) : Prop where
  head : ∀ c, cs.head? = some c → isBlank c = false
  last : ∀ c, cs.getLast? = some c → isBlank c = false

theorem trimmed_of_forall {cs : List Char} (h : ∀ c ∈ cs, isBlank c = false) : Trimmed cs :=
  ⟨fun c hc => h c (List.mem_of_mem_head? hc), fun c hc => h c (List.mem_of_getLast? hc)⟩

theorem trimmed_trim (cs : List Char) : Trimmed (trim cs) := by
  obtain ⟨t, split, -⟩ := exists_dropEndWhile_append isBlank (cs.dropWhile isBlank)
  refine ⟨fun c hc => ?_, fun c hc => ?_⟩
  · have first : (cs.dropWhile isBlank).head? = some c := by
      rw [split, List.head?_append]
      show (trim cs).head?.or _ = _
      rw [hc, Option.some_or]
    have := List.head?_dropWhile_not isBlank cs
    rw [first] at this
    exact this
  · have ne : trim cs ≠ [] := by
      intro e
      rw [e] at hc
      cases hc
    rw [List.getLast?_eq_some_getLast ne] at hc
    rw [← Option.some.inj hc]
    exact getLast_dropEndWhile ne

theorem trim_eq_self_iff {cs : List Char} : trim cs = cs ↔ Trimmed cs := by
  constructor
  · intro h
    exact h ▸ trimmed_trim cs
  · intro h
    have kept : cs.dropWhile isBlank = cs := by
      cases cs with
      | nil => rfl
      | cons c rest => rw [List.dropWhile_cons, h.head c rfl, if_neg Bool.false_ne_true]
    rw [trim, kept]
    exact dropEndWhile_eq_self h.last

theorem trim_cons_blank {c : Char} (h : isBlank c = true) (cs : List Char) :
    trim (c :: cs) = trim cs := by
  rw [trim, List.dropWhile_cons, if_pos h, trim]

theorem mem_of_mem_trim {c : Char} {cs : List Char} (h : c ∈ trim cs) : c ∈ cs := by
  obtain ⟨t, split, -⟩ := exists_dropEndWhile_append isBlank (cs.dropWhile isBlank)
  have : c ∈ cs.dropWhile isBlank := by
    rw [split]
    exact List.mem_append_left t h
  exact (List.dropWhile_sublist isBlank).mem this

end Pseudocode.Text
