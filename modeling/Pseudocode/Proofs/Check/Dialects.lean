/-
  Pseudocode.Proofs.Check.Dialects — two analyses that differ in the dialect.

  The dialect gives the words that declarations end with, and nothing else. It is read at one place:
  where the word in front of a semicolon is compared with the word for the type of an identifier.
  What is in front of that comparison (the name, the semicolon) and what is behind it (the tables,
  the body, the counts) does not know it. So two analyses of one stream can part only at a word, and
  each of the two words is then one that the other dialect would not have accepted.

  The dialects have one word in common, the one for real. A declaration that is in order in both is
  one of a real variable; any other that is in order in one dialect is refused in the other.

  Proved:
  (1) Words of different dialects agree for real only (`Dialect.typeName_eq_iff`).
  (2) A position without a fault in one dialect has none in the other, or declares a variable that
      is not real and is refused for its word (`faultAt?_of_quiet_dialect`); a fault that is about
      no word is the same in both (`faultAt?_of_dialect`).
  (3) What two accepted analyses, an accepted and a refused one, and two refused ones have to do
      with one another (`dialects_share_real`).
-/

import Pseudocode.Proofs.Check.Tables

namespace Pseudocode

/-- Two dialects have one word in common. -/
theorem Dialect.typeName_eq_iff {d e : Dialect} (apart : d ≠ e) {s t : ValueType} :
    d.typeName s = e.typeName t ↔ s = .real ∧ t = .real := by
  revert apart
  cases d <;> cases e <;> cases s <;> cases t <;> decide

/-- A declaration was refused for its word. -/
def Fault.IsTypeMismatch (f : Fault) : Prop :=
  ∃ place expected found, f = .typeMismatch place expected found

/-- The token `t` at `i` declares a variable of `type`, the first one in front of `m` that is not
real. -/
structure FirstUnreal (tokens : List Token) (m i : Nat) (t : Token) (type : ValueType) : Prop where
  inside : i < m
  here : tokens[i]? = some t
  typed : t.kind.valueType? = some type
  unreal : type ≠ .real
  before : ∀ j < i, ∀ u other, tokens[j]? = some u → u.kind.valueType? = some other → other = .real

/-! ## One position in two dialects -/

section Position

variable {settings : Settings} {d e : Dialect} {tokens : List Token} {m i : Nat} {t : Token}
  {type : ValueType} {f : Fault}

theorem declarationFault?_of_dialect
    (found : declarationFault? { settings with dialect := d } tokens m i t type = some f)
    (other : ¬ f.IsTypeMismatch) :
    declarationFault? { settings with dialect := e } tokens m i t type = some f := by
  unfold declarationFault? at found ⊢
  split at found
  · rw [if_pos ‹_›, found]
  · rw [if_neg ‹_›]
    cases announced : announcement? tokens i m with
    | none =>
      rw [announced] at found
      exact found
    | some word =>
      simp only [announced] at found
      split at found
      · cases found
      · cases found
        exact absurd ⟨_, _, _, rfl⟩ other

/-- A fault that is about no word is found in every dialect. -/
theorem faultAt?_of_dialect
    (found : faultAt? { settings with dialect := d } tokens m i = some f)
    (other : ¬ f.IsTypeMismatch) :
    faultAt? { settings with dialect := e } tokens m i = some f := by
  obtain ⟨t, ht, hid, -⟩ := exists_place_of_faultAt? found
  by_cases lt : i < m
  · unfold faultAt? at found ⊢
    rw [ht, Option.bind_some, if_pos hid, if_pos lt] at found ⊢
    obtain ⟨type, hv, found⟩ := Option.bind_eq_some_iff.1 found
    rw [hv, Option.bind_some]
    exact declarationFault?_of_dialect found other
  · rw [faultAt?_of_reference ht (Nat.le_of_not_lt lt) hid] at found ⊢
    exact found

variable (apart : d ≠ e)

include apart

/-- A declaration that is in order in one dialect is refused for its word in the other, unless it is
one of a real variable. -/
theorem declarationFault?_of_quiet_dialect
    (quiet : declarationFault? { settings with dialect := d } tokens m i t type = none) :
    declarationFault? { settings with dialect := e } tokens m i t type =
      if type = .real then none
      else some (.typeMismatch t.place (e.typeName type) (d.typeName type)) := by
  obtain ⟨new, word, announced, named⟩ := declarationFault?_eq_none_iff.1 quiet
  have same : word.lexeme = e.typeName type ↔ type = .real := by
    rw [named, Dialect.typeName_eq_iff apart, and_self]
  simp only [declarationFault?, new, announced, same, Option.isSome_none, Bool.false_eq_true,
    if_false]
  rw [named]

/-- A position that has a fault in one dialect only declares a variable that is not real. -/
theorem faultAt?_of_quiet_dialect
    (quiet : faultAt? { settings with dialect := d } tokens m i = none)
    (found : faultAt? { settings with dialect := e } tokens m i = some f) :
    i < m ∧ ∃ t type, tokens[i]? = some t ∧ t.kind.valueType? = some type ∧ type ≠ .real ∧
      f = .typeMismatch t.place (e.typeName type) (d.typeName type) := by
  obtain ⟨t, ht, hid, -⟩ := exists_place_of_faultAt? found
  rcases Nat.lt_or_ge i m with lt | le
  · cases hv : t.kind.valueType? with
    | none =>
      unfold faultAt? at found
      rw [ht, Option.bind_some, if_pos hid, if_pos lt, hv] at found
      cases found
    | some type =>
      rw [faultAt?_of_variable ht lt hv] at quiet found
      rw [declarationFault?_of_quiet_dialect apart quiet] at found
      split at found
      · cases found
      · cases found
        exact ⟨lt, t, type, ht, hv, ‹_›, rfl⟩
  · -- the body does not read the dialect
    rw [faultAt?_of_reference ht le hid] at quiet found
    cases quiet.symm.trans found

/-- A variable whose declaration is in order in both dialects is real. -/
theorem real_of_quiet (quiet : faultAt? { settings with dialect := d } tokens m i = none)
    (quiet' : faultAt? { settings with dialect := e } tokens m i = none) (lt : i < m)
    (ht : tokens[i]? = some t) (hv : t.kind.valueType? = some type) : type = .real := by
  rw [faultAt?_of_variable ht lt hv] at quiet quiet'
  rw [declarationFault?_of_quiet_dialect apart quiet] at quiet'
  by_contra unreal
  rw [if_neg unreal] at quiet'
  cases quiet'

/-- Where one dialect accepts a stream, the first fault in the other is at the first variable that
is not real. -/
theorem firstUnreal_of_quiet
    (quiet : ∀ j, faultAt? { settings with dialect := d } tokens m j = none)
    (found : faultAt? { settings with dialect := e } tokens m i = some f)
    (before : ∀ j < i, faultAt? { settings with dialect := e } tokens m j = none) :
    ∃ t type, FirstUnreal tokens m i t type ∧
      f = .typeMismatch t.place (e.typeName type) (d.typeName type) := by
  obtain ⟨lt, t, type, ht, hv, unreal, rfl⟩ := faultAt?_of_quiet_dialect apart (quiet i) found
  refine ⟨t, type, ⟨lt, ht, hv, unreal, ?_⟩, rfl⟩
  intro j front u other hu hv'
  exact real_of_quiet apart (quiet j) (before j front) (Nat.lt_trans front lt) hu hv'

end Position

/-- Two dialects and one stream. Where both accept it, all its variables are real and the results
are the same. Where one accepts it and the other does not, the other refuses the first variable that
is not real, because of its word. Where both refuse it, and neither because of a word, they do so
with the same fault. -/
theorem dialects_share_real (settings : Settings) {d e : Dialect} (apart : d ≠ e)
    (tokens : List Token) :
    (∀ a b, (analyze { settings with dialect := d } tokens).outcome = .ok a →
      (analyze { settings with dialect := e } tokens).outcome = .ok b →
      a = b ∧ ∀ s ∈ a.symbols.symbols, s.kind = .realId) ∧
    (∀ a f, (analyze { settings with dialect := d } tokens).outcome = .ok a →
      (analyze { settings with dialect := e } tokens).outcome = .error f →
      ∃ m i t type, tokens.findIdx? Token.isBegin = some m ∧ FirstUnreal tokens m i t type ∧
        f = .typeMismatch t.place (e.typeName type) (d.typeName type)) ∧
    ∀ f g, (analyze { settings with dialect := d } tokens).outcome = .error f →
      (analyze { settings with dialect := e } tokens).outcome = .error g →
      ¬ f.IsTypeMismatch → ¬ g.IsTypeMismatch → f = g := by
  refine ⟨?_, ?_, ?_⟩
  · intro a b accepted accepted'
    obtain ⟨m, hm, quiet, rfl⟩ := outcome_analyze_eq_ok_iff.1 accepted
    obtain ⟨quiet', rfl⟩ := (outcome_analyze_eq_ok_iff_of_begin hm).1 accepted'
    refine ⟨rfl, ?_⟩
    intro s mem
    have symbols : (analysisOf { settings with dialect := d } tokens m).symbols.symbols = _ :=
      symbols_of_quiet quiet
    rw [symbols] at mem
    obtain ⟨i, hi, hs⟩ := List.mem_filterMap.1 mem
    obtain ⟨t, type, ht, hv, kind⟩ := kind_of_symbolAt? hs
    obtain rfl := real_of_quiet apart (quiet i) (quiet' i) (List.mem_range.1 hi) ht hv
    exact kind
  · intro a f accepted refused
    obtain ⟨m, i, hm, quiet, found, before⟩ := exists_parting accepted refused
    obtain ⟨t, type, first, told⟩ := firstUnreal_of_quiet apart quiet found before
    exact ⟨m, i, t, type, hm, first, told⟩
  · intro f g refused refused' other other'
    rcases outcome_analyze_eq_error_iff.1 refused with ⟨none, rfl⟩ | ⟨m, i, hm, found, before⟩
    · rcases outcome_analyze_eq_error_iff.1 refused' with ⟨-, rfl⟩ | ⟨m', -, hm', -⟩
      · rfl
      · cases none.symm.trans hm'
    · rcases outcome_analyze_eq_error_iff.1 refused' with ⟨none, -⟩ | ⟨m', j, hm', found', before'⟩
      · cases hm.symm.trans none
      · obtain rfl : m = m' := Option.some.inj (hm.symm.trans hm')
        -- each fault is found in both dialects, so neither of the two is in front of the other
        have here := faultAt?_of_dialect (e := e) found other
        have there := faultAt?_of_dialect (e := d) found' other'
        rcases Nat.lt_trichotomy i j with lt | rfl | gt
        · cases (before' i lt).symm.trans here
        · exact Option.some.inj (here.symm.trans found')
        · cases (before j gt).symm.trans there

/-- Declares two real variables. -/
def realsOnly : List Token :=
  [.plain .realId "x" 1, .plain .comma "," 1, .plain .realId "y" 1, .plain .realKw "real" 1,
    .plain .semicolon ";" 1, .plain .beginKw "begin" 2]

/-- Declares an int, in Spanish, behind two real variables. -/
def realsThenInt : List Token :=
  realsOnly.take 5 ++ [.plain .intId "n" 2, .plain .intKw "entero" 2, .plain .semicolon ";" 2,
    .plain .beginKw "inicio" 3]

/-- Declares two real variables and uses another name. -/
def realsThenStray : List Token := realsOnly ++ [.plain .realId "z" 3]

/-- The real variables alone are accepted in both dialects, the int in Spanish only, and the name
that was not declared is the fault in both. -/
theorem reals_in_dialects :
    (∃ a b, (analyze { dialect := .english } realsOnly).outcome = .ok a ∧
      (analyze { dialect := .spanish } realsOnly).outcome = .ok b ∧
      a = b ∧ ∀ s ∈ a.symbols.symbols, s.kind = .realId) ∧
    (∃ a f, (analyze { dialect := .spanish } realsThenInt).outcome = .ok a ∧
      (analyze { dialect := .english } realsThenInt).outcome = .error f ∧
      ∃ m i t type, realsThenInt.findIdx? Token.isBegin = some m ∧
        FirstUnreal realsThenInt m i t type ∧
        f = .typeMismatch t.place (Dialect.english.typeName type)
          (Dialect.spanish.typeName type)) ∧
    ∃ f g, (analyze { dialect := .english } realsThenStray).outcome = .error f ∧
      (analyze { dialect := .spanish } realsThenStray).outcome = .error g ∧ ¬ f.IsTypeMismatch ∧
      ¬ g.IsTypeMismatch ∧ f = g := by
  have apart : Dialect.english ≠ .spanish := by decide
  have both (d : Dialect) : (analyze { dialect := d } realsOnly).outcome =
      .ok (analysisOf { dialect := d } realsOnly 5) := by cases d <;> decide
  have accepted : (analyze { dialect := .spanish } realsThenInt).outcome =
      .ok (analysisOf { dialect := .spanish } realsThenInt 8) := by decide
  have refused : (analyze { dialect := .english } realsThenInt).outcome =
      .error (.typeMismatch (Token.plain .intId "n" 2).place "int" "entero") := by decide
  have stray (d : Dialect) : (analyze { dialect := d } realsThenStray).outcome =
      .error (.undeclared (Token.plain .realId "z" 3).place) := by cases d <;> decide
  have other : ¬ (Fault.undeclared (Token.plain .realId "z" 3).place).IsTypeMismatch :=
    fun ⟨_, _, _, e⟩ => nomatch e
  obtain ⟨-, -, equal⟩ := dialects_share_real {} apart realsThenStray
  exact ⟨⟨_, _, both _, both _, (dialects_share_real {} apart _).1 _ _ (both _) (both _)⟩,
    ⟨_, _, accepted, refused,
      (dialects_share_real {} apart.symm _).2.1 _ _ accepted refused⟩,
    ⟨_, _, stray _, stray _, other, other, equal _ _ (stray _) (stray _) other other⟩⟩

end Pseudocode
