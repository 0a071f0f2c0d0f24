/-
  Pseudocode.Proofs.Check.Repeats — a name that the declarations carry twice.

  Two ways lead into the symbol table. A typed identifier is refused when its name is known. A
  program name is taken either way: when its name is known, it opens its scope under the name, is
  resolved to the address that the name already has, and enters no table. So of two identifiers
  with one name the kind of the later one decides. A variable behind a program of its name is
  refused; a program behind a variable of its name is not, and then two things share a name of
  which only the variable stands in a table.

  Proved:
  (1) A position has the fault of a duplicate exactly when it repeats a name as a typed identifier
      (`faultAt?_eq_duplicate_iff`).
  (2) What becomes of a stream that carries a name twice, by the kind of the later occurrence, and
      what its tables hold when it is accepted (`repeats_judged`).
  (3) A program may take the name of a variable that stands in front of it
      (`laterProgram_not_refused`).
-/

import Pseudocode.Proofs.Check.Tables

namespace Pseudocode

/-- Among the declarations, which are the positions below `m`, the identifiers `t` at `i` and `u`
at a later `j` carry one name. -/
structure Repeats (tokens : List Token) (m i j : Nat) (t u : Token) : Prop where
  lt : i < j
  inside : j < m
  first : tokens[i]? = some t
  second : tokens[j]? = some u
  isIdentifier_first : t.isIdentifier = true
  isIdentifier_second : u.isIdentifier = true
  same : t.lexeme = u.lexeme

section Repeats

variable {settings : Settings} {tokens : List Token} {m i j : Nat} {t u : Token}

/-- A typed identifier that repeats a name is refused for it, before anything else is asked of its
declaration. -/
theorem faultAt?_of_repeats (h : Repeats tokens m i j t u) (typed : u.kind ≠ .generalId) :
    faultAt? settings tokens m j = some (.duplicateDeclaration u.place) := by
  obtain ⟨type, hv⟩ : ∃ type, u.kind.valueType? = some type := by
    rcases Kind.isIdentifier_iff.1 h.isIdentifier_second with typed' | program
    · exact Option.isSome_iff_exists.1 typed'
    · exact absurd program typed
  have known : (introducer? (tokens.take j) u.lexeme).isSome = true :=
    isSome_introducer?_take_iff.2 ⟨i, h.lt, t, h.first, h.isIdentifier_first, h.same⟩
  rw [faultAt?_of_variable h.second h.inside hv, declarationFault?, if_pos known]

/-- A position of the declarations has the fault of a duplicate exactly when a typed identifier
stands there that repeats the name of an identifier in front of it. -/
theorem faultAt?_eq_duplicate_iff (lt : j < m) {p : Place} :
    faultAt? settings tokens m j = some (.duplicateDeclaration p) ↔
      ∃ i t u, Repeats tokens m i j t u ∧ u.kind ≠ .generalId ∧ p = u.place := by
  constructor
  · intro fault
    obtain ⟨u, hu, hid, -⟩ := exists_place_of_faultAt? fault
    cases hv : u.kind.valueType? with
    | none =>
      rw [faultAt?_of_program hu lt (Token.kind_of_untyped hid hv)] at fault
      cases fault
    | some type =>
      have typed : u.kind ≠ .generalId := by
        intro program
        rw [program] at hv
        cases hv
      rw [faultAt?_of_variable hu lt hv, declarationFault?] at fault
      split at fault
      · rename_i known
        obtain ⟨i, before, t, ht, hid', e⟩ := isSome_introducer?_take_iff.1 known
        cases fault
        exact ⟨i, t, u, ⟨before, lt, ht, hu, hid', hid, e⟩, typed, rfl⟩
      · split at fault
        · cases fault
        · split at fault <;> cases fault
  · rintro ⟨i, t, u, h, typed, rfl⟩
    exact faultAt?_of_repeats h typed

/-- What the tables of an accepted stream say of a name that a program carries behind a variable:
it is the variable's, and no program of that name is recorded. -/
structure BelongsToVariable (a : Analysis) (type : Option ValueType) (x : String) : Prop where
  type_eq : a.symbols.typeOf? x = type
  unrecorded : ∀ entry ∈ a.programs.entries, entry.lexeme ≠ x

theorem belongsToVariable_of_quiet (quiet : ∀ k, faultAt? settings tokens m k = none)
    (h : Repeats tokens m i j t u) (typed : t.kind ≠ .generalId) :
    BelongsToVariable (analysisOf settings tokens m) t.kind.valueType? u.lexeme := by
  have isTyped : t.kind.valueType?.isSome = true :=
    (Kind.isIdentifier_iff.1 h.isIdentifier_first).resolve_right typed
  have lt : i < m := h.lt.trans h.inside
  have introduces : Introduces tokens i t := introduces_of_typed (quiet i) lt h.first isTyped
  constructor
  case type_eq =>
    show (tableAt settings tokens m).typeOf? u.lexeme = t.kind.valueType?
    rw [typeOf?_tableAt, ← h.same, introducer?_take introduces lt]
    rfl
  case unrecorded =>
    intro entry mem e
    obtain ⟨k, -, hk⟩ := List.mem_filterMap.1 mem
    obtain ⟨p, hp, ep, program⟩ := introduces_of_programAt? hk
    -- the name is introduced once, and by the variable
    have : i = k := index_eq_of_introduces introduces hp (by rw [h.same, ep, e])
    subst this
    obtain rfl : t = p := Option.some.inj (introduces.here.symm.trans hp.here)
    exact typed program

/-- When the declarations carry a name twice, the kind of the later occurrence decides. A typed
identifier is refused as a duplicate, unless a position in front of it is at fault already. A
program name never decides anything: the stream is accepted when all other positions are in order,
and the name is then the variable's if it was one's. -/
theorem repeats_judged (settings : Settings) {tokens : List Token} {m i j : Nat} {t u : Token}
    (hm : tokens.findIdx? Token.isBegin = some m) (h : Repeats tokens m i j t u) :
    (u.kind ≠ .generalId →
      (∀ a, (analyze settings tokens).outcome ≠ .ok a) ∧
      ((∀ k < j, faultAt? settings tokens m k = none) →
        (analyze settings tokens).outcome = .error (.duplicateDeclaration u.place))) ∧
    (u.kind = .generalId →
      ((∃ a, (analyze settings tokens).outcome = .ok a) ↔
        ∀ k ≠ j, faultAt? settings tokens m k = none) ∧
      (t.kind ≠ .generalId → ∀ a, (analyze settings tokens).outcome = .ok a →
        BelongsToVariable a t.kind.valueType? u.lexeme)) := by
  have accepted_iff (a : Analysis) : (analyze settings tokens).outcome = .ok a ↔
      (∀ k, faultAt? settings tokens m k = none) ∧ a = analysisOf settings tokens m :=
    outcome_analyze_eq_ok_iff_of_begin hm
  constructor
  · intro typed
    have fault : faultAt? settings tokens m j = some (.duplicateDeclaration u.place) :=
      faultAt?_of_repeats h typed
    constructor
    · intro a accepted
      have quiet_here := ((accepted_iff a).1 accepted).1 j
      rw [quiet_here] at fault
      cases fault
    · intro before
      exact outcome_analyze_eq_error_iff.2 (.inr ⟨m, j, hm, fault, before⟩)
  · intro program
    have quiet_here : faultAt? settings tokens m j = none :=
      faultAt?_of_program h.second h.inside program
    constructor
    · constructor
      · intro ⟨a, accepted⟩ k _
        exact ((accepted_iff a).1 accepted).1 k
      · intro others
        refine ⟨_, (accepted_iff _).2 ⟨?_, rfl⟩⟩
        intro k
        by_cases here : k = j
        · rw [here, quiet_here]
        · exact others k here
    · intro typed a accepted
      obtain ⟨quiet, rfl⟩ := (accepted_iff a).1 accepted
      exact belongsToVariable_of_quiet quiet h typed

end Repeats

/-- Names a program `n` and declares an int `n`. -/
def laterVariable : List Token :=
  [.plain .generalId "n" 1, .plain .intId "n" 2, .plain .intKw "int" 2, .plain .semicolon ";" 2,
    .plain .beginKw "begin" 3]

/-- Declares an int `n` and names a program `n`. -/
def laterProgram : List Token :=
  [.plain .intId "n" 1, .plain .intKw "int" 1, .plain .semicolon ";" 1, .plain .generalId "n" 2,
    .plain .beginKw "begin" 3]

/-- In one order the name is refused, in the other it stays the variable's. -/
theorem repeats_judged_in_both_orders :
    (analyze {} laterVariable).outcome = .error (.duplicateDeclaration ⟨"n", 2, .nowhere⟩) ∧
      ∃ a, (analyze {} laterProgram).outcome = .ok a ∧ BelongsToVariable a (some .int) "n" := by
  have before : Repeats laterVariable 4 0 1 (.plain .generalId "n" 1) (.plain .intId "n" 2) :=
    ⟨by decide, by decide, rfl, rfl, rfl, rfl, rfl⟩
  have behind : Repeats laterProgram 4 0 3 (.plain .intId "n" 1) (.plain .generalId "n" 2) :=
    ⟨by decide, by decide, rfl, rfl, rfl, rfl, rfl⟩
  obtain ⟨-, refused⟩ := (repeats_judged {} rfl before).1 (by decide)
  obtain ⟨-, owned⟩ := (repeats_judged {} rfl behind).2 rfl
  constructor
  · refine refused fun k lt => ?_
    obtain rfl : k = 0 := by omega
    decide
  · obtain ⟨a, accepted⟩ : ∃ a, (analyze {} laterProgram).outcome = .ok a := ⟨_, rfl⟩
    exact ⟨a, accepted, owned (by decide) a accepted⟩

/-- A program may take the name of a variable that stands in front of it. -/
theorem laterProgram_not_refused :
    ∃ a i j t u, laterProgram.findIdx? Token.isBegin = some 4 ∧ Repeats laterProgram 4 i j t u ∧
      t.kind.valueType?.isSome = true ∧ (analyze {} laterProgram).outcome = .ok a :=
  ⟨_, 0, 3, _, _, rfl, ⟨by decide, by decide, rfl, rfl, rfl, rfl, rfl⟩, rfl, rfl⟩

end Pseudocode
