/-
  Pseudocode.Proofs.Check.Scans — two ways to judge an assignment.

  An assignment is judged by its own right-hand side, or by the leading statement of the stream.
  Nothing else of an analysis depends on the choice: not the declarations, not the conditions, and
  not what is counted or numbered. So two analyses that differ in it part only at an assignment
  that passes the one check and fails the other.

  The leading check reads the same tokens for every assignment. It passes for all of them or for
  none, and so fails at the first or not at all. When the stream starts with something else than an
  identifier of a type, all it needs is a semicolon somewhere; an assignment that passes the other
  check has one.

  Proved:
  (1) A fault of an assignment is raised where an assignment starts, by its check
      (`exists_checkAssignment_of_faultAt?`).
  (2) The leading check does not look at the assignment
      (`fault?_checkAssignment_leading_eq_none_iff`).
  (3) Where analyses with different checks part (`outcome_analyze_of_scan`), and what that comes to
      (`scans_compared`).
-/

import Pseudocode.Proofs.Check.Assignments

namespace Pseudocode

/-! ## Faults of assignments -/

/-- What an assignment must find, as messages describe it. -/
def AssignmentScan.terminator : AssignmentScan → String
  | .statement => "';' ending the assignment"
  | .leading => "the first ';' of the stream"

/-- The faults that assignments are refused with. -/
def Fault.OfAssignment (scan : AssignmentScan) (f : Fault) : Prop :=
  (∃ place target reason, f = .invalidAssignment place target reason) ∨
    ∃ place, f = .unterminated place scan.terminator

section Faults

variable {scan : AssignmentScan} {settings : Settings} {tokens : List Token} {m i : Nat} {t : Token}
  {f : Fault}

theorem ofAssignment_of_judgeAssignment {type : ValueType} {expression : List Token}
    (h : judgeAssignment t type expression = .error f) : f.OfAssignment scan := by
  unfold judgeAssignment at h
  split at h
  · cases h
  · cases h
    exact .inl ⟨_, _, _, rfl⟩

theorem ofAssignment_of_checkAssignment {target : Option ValueType}
    (h : (checkAssignment scan tokens i t target).fault? = some f) : f.OfAssignment scan := by
  rw [Traced.fault?_eq_some_iff] at h
  unfold checkAssignment at h
  cases scan with
  | statement =>
    simp only at h
    split at h
    · cases h
      exact .inr ⟨_, rfl⟩
    · split at h
      · cases h
        exact .inl ⟨_, _, _, rfl⟩
      · exact ofAssignment_of_judgeAssignment h
  | leading =>
    simp only at h
    split at h
    · cases h
      exact .inr ⟨_, rfl⟩
    · split at h
      · cases h
      · exact ofAssignment_of_judgeAssignment h

theorem not_ofAssignment_of_declarationFault? {type : ValueType}
    (h : declarationFault? settings tokens m i t type = some f) : ¬ f.OfAssignment scan := by
  unfold declarationFault? at h
  split at h
  · cases h
    simp [Fault.OfAssignment]
  · split at h
    · cases h
      cases scan <;> simp [Fault.OfAssignment, AssignmentScan.terminator]
    · split at h
      · cases h
      · cases h
        simp [Fault.OfAssignment]

theorem not_ofAssignment_of_conditionFault? (h : conditionFault? tokens i t = some f) :
    ¬ f.OfAssignment scan := by
  obtain ⟨construct, -, h⟩ := Option.bind_eq_some_iff.1 h
  rw [Traced.fault?_eq_some_iff] at h
  unfold checkCondition at h
  split at h
  · cases h
    cases scan <;> cases construct <;>
      simp [Fault.OfAssignment, AssignmentScan.terminator, Construct.terminator]
  · rw [Traced.outcome_bind, Traced.outcome_note, ok_bind] at h
    split at h
    · cases h
    · cases h
      simp [Fault.OfAssignment]

/-- A fault of an assignment stands where an assignment starts, and its check found it. -/
theorem exists_checkAssignment_of_faultAt? (h : faultAt? settings tokens m i = some f)
    (broken : f.OfAssignment scan) :
    startsAssignmentAt tokens m i = true ∧ ∃ t target, tokens[i]? = some t ∧
      (checkAssignment settings.scan tokens i t target).fault? = some f := by
  obtain ⟨t, ht, hid, -⟩ := exists_place_of_faultAt? h
  by_cases lt : i < m
  · unfold faultAt? at h
    rw [ht, Option.bind_some, if_pos hid, if_pos lt] at h
    obtain ⟨type, -, h⟩ := Option.bind_eq_some_iff.1 h
    exact absurd broken (not_ofAssignment_of_declarationFault? h)
  · rw [faultAt?_of_reference ht (Nat.le_of_not_lt lt) hid] at h
    unfold referenceFault? at h
    split at h
    · cases h
      simp [Fault.OfAssignment] at broken
    · rcases Option.or_eq_some_iff.1 h with assigned | ⟨-, tested⟩
      · unfold assignmentFault? at assigned
        split at assigned
        · rename_i follows
          refine ⟨?_, t, _, ht, assigned⟩
          simp [startsAssignmentAt, isReferenceAt, ht, hid, Nat.le_of_not_lt lt, follows]
        · cases assigned
      · exact absurd broken (not_ofAssignment_of_conditionFault? tested)

end Faults

/-! ## The leading check -/

section Leading

variable {tokens : List Token} {i : Nat} {t : Token} {target : Option ValueType}

/-- The leading check passes, whatever is assigned, when the stream has a first statement, and that
keeps the rule of the type it starts with, if it starts with one. -/
theorem fault?_checkAssignment_leading_eq_none_iff :
    (checkAssignment .leading tokens i t target).fault? = none ↔
      ∃ statement, beforeSemicolon tokens = some statement ∧
        ∀ type, tokens.head?.bind (·.kind.valueType?) = some type →
          (AssignmentRule.ofType type).violation? (kindsOf statement) = none := by
  rw [Traced.fault?_eq_none_iff]
  unfold checkAssignment
  cases beforeSemicolon tokens with
  | none => simp
  | some statement =>
    cases tokens.head?.bind (·.kind.valueType?) with
    | none => simp
    | some type =>
      cases broken : (AssignmentRule.ofType type).violation? (kindsOf statement) <;>
        simp [judgeAssignment, broken]

/-- An assignment that passes the leading check shows that every other does. -/
theorem leading_passes_of_passes
    (passes : (checkAssignment .leading tokens i t target).fault? = none) (j : Nat) (u : Token)
    (other : Option ValueType) :
    (checkAssignment .leading tokens j u other).fault? = none :=
  fault?_checkAssignment_leading_eq_none_iff.2 (fault?_checkAssignment_leading_eq_none_iff.1 passes)

variable (untyped : tokens.head?.bind (·.kind.valueType?) = none)

include untyped

theorem leading_fault_of_untyped {f : Fault}
    (h : (checkAssignment .leading tokens i t target).fault? = some f) :
    f = .unterminated t.place AssignmentScan.leading.terminator := by
  rw [Traced.fault?_eq_some_iff] at h
  simp only [checkAssignment, untyped] at h
  split at h
  · cases h
    rfl
  · cases h

/-- The semicolon of an assignment is one of the stream. -/
theorem leading_passes_of_statement_passes
    (passes : (checkAssignment .statement tokens i t target).fault? = none) :
    (checkAssignment .leading tokens i t target).fault? = none := by
  obtain ⟨expression, type, found, -, -⟩ := fault?_checkAssignment_statement_eq_none_iff.1 passes
  obtain ⟨-, last, rest, split, semicolon⟩ := beforeSemicolon_eq_some_iff.1 found
  refine fault?_checkAssignment_leading_eq_none_iff.2 ?_
  cases before : beforeSemicolon tokens with
  | some statement =>
    refine ⟨statement, rfl, ?_⟩
    intro type typed
    rw [untyped] at typed
    cases typed
  | none =>
    have mem : last ∈ tokens.drop (i + 2) := by simp [split]
    have none := beforeSemicolon_eq_none_iff.1 before last (List.mem_of_mem_drop mem)
    rw [semicolon] at none
    cases none

end Leading

/-! ## Two scans of one stream -/

section Scans

variable {settings : Settings} {x y : AssignmentScan} {tokens : List Token} {m i : Nat} {f : Fault}

/-- A position that has a fault under one scan only starts an assignment, which passes the one check
and fails the other. -/
theorem exists_checkAssignment_of_scan
    (quiet : faultAt? { settings with scan := x } tokens m i = none)
    (found : faultAt? { settings with scan := y } tokens m i = some f) :
    ∃ t target, tokens[i]? = some t ∧ (checkAssignment x tokens i t target).fault? = none ∧
      (checkAssignment y tokens i t target).fault? = some f := by
  obtain ⟨t, ht, hid, -⟩ := exists_place_of_faultAt? found
  by_cases lt : i < m
  · -- no declaration is judged by the scan
    have same : faultAt? { settings with scan := x } tokens m i =
        faultAt? { settings with scan := y } tokens m i := by
      unfold faultAt?
      rw [ht, Option.bind_some, Option.bind_some, if_pos lt, if_pos lt]
      rfl
    rw [quiet, found] at same
    cases same
  · rw [faultAt?_of_reference ht (Nat.le_of_not_lt lt) hid] at quiet found
    obtain ⟨first, introduced, passes, tested⟩ := referenceFault?_eq_none_iff.1 quiet
    unfold referenceFault? at found
    rw [introduced] at found
    simp only [tested, Option.or_none] at found
    unfold assignmentFault? at passes found
    split at found
    · rename_i follows
      rw [if_pos follows] at passes
      exact ⟨t, _, ht, passes, found⟩
    · cases found

/-- A stream that is accepted under one scan has the same result under the other, or is refused
there by the check of an assignment that passes the first check. -/
theorem outcome_analyze_of_scan {a : Analysis} (y : AssignmentScan)
    (ok : (analyze { settings with scan := x } tokens).outcome = .ok a) :
    (analyze { settings with scan := y } tokens).outcome = .ok a ∨
      ∃ f i t target, (analyze { settings with scan := y } tokens).outcome = .error f ∧
        (checkAssignment x tokens i t target).fault? = none ∧
        (checkAssignment y tokens i t target).fault? = some f := by
  cases h : (analyze { settings with scan := y } tokens).outcome with
  | ok b =>
    obtain ⟨m, hm, -, rfl⟩ := outcome_analyze_eq_ok_iff.1 ok
    obtain ⟨-, rfl⟩ := (outcome_analyze_eq_ok_iff_of_begin hm).1 h
    exact .inl rfl
  | error f =>
    obtain ⟨m, i, -, quiet, here, -⟩ := exists_parting ok h
    obtain ⟨t, target, -, passes, fails⟩ := exists_checkAssignment_of_scan (quiet i) here
    exact .inr ⟨f, i, t, target, rfl, passes, fails⟩

end Scans

/-- The first assignment of the body starts at `i`. -/
def FirstAssignmentAt (tokens : List Token) (i : Nat) : Prop :=
  ∃ m, tokens.findIdx? Token.isBegin = some m ∧ startsAssignmentAt tokens m i = true ∧
    ∀ j < i, startsAssignmentAt tokens m j = false

/-- The two scans of one stream. The leading one refuses the first assignment or none: once one
assignment passes its check, all others pass. Where the stream does not start with an identifier of
a type, it finds no assignment invalid and accepts all that the other one accepts, with the same
result; what it accepts, the other one accepts with the same result or refuses because of an
assignment. -/
theorem scans_compared (settings : Settings) (tokens : List Token) :
    (∀ f, (analyze { settings with scan := .leading } tokens).outcome = .error f →
      f.OfAssignment .leading →
      ∃ i, RaisedAt { settings with scan := .leading } tokens i f ∧ FirstAssignmentAt tokens i) ∧
    (∀ i t target, (checkAssignment .leading tokens i t target).fault? = none →
      ∀ j u other, (checkAssignment .leading tokens j u other).fault? = none) ∧
    (tokens.head?.bind (·.kind.valueType?) = none →
      (∀ place target reason, (analyze { settings with scan := .leading } tokens).outcome ≠
        .error (.invalidAssignment place target reason)) ∧
      (∀ a, (analyze { settings with scan := .statement } tokens).outcome = .ok a →
        (analyze { settings with scan := .leading } tokens).outcome = .ok a) ∧
      ∀ a, (analyze { settings with scan := .leading } tokens).outcome = .ok a →
        (analyze { settings with scan := .statement } tokens).outcome = .ok a ∨
          ∃ f, (analyze { settings with scan := .statement } tokens).outcome = .error f ∧
            f.OfAssignment .statement) := by
  refine ⟨?_, fun i t target => leading_passes_of_passes, fun untyped => ⟨?_, ?_, ?_⟩⟩
  · intro f h broken
    rcases outcome_analyze_eq_error_iff.1 h with ⟨-, rfl⟩ | ⟨m, i, hm, here, before⟩
    · simp [Fault.OfAssignment] at broken
    · obtain ⟨starts, t, target, -, fails⟩ := exists_checkAssignment_of_faultAt? here broken
      refine ⟨i, ⟨m, hm, here, before⟩, m, hm, starts, ?_⟩
      intro j lt
      rw [← Bool.not_eq_true]
      intro earlier
      simp only [startsAssignmentAt, isReferenceAt, Bool.and_eq_true, decide_eq_true_eq,
        Option.any_eq_true] at earlier
      obtain ⟨⟨le, u, hu, uid⟩, v, hv, follows⟩ := earlier
      have passes := fault?_checkAssignment_of_quiet (before j lt) le hu uid (by simp [hv, follows])
      rw [leading_passes_of_passes passes] at fails
      cases fails
  · intro place target reason h
    rcases outcome_analyze_eq_error_iff.1 h with ⟨-, e⟩ | ⟨m, i, hm, here, -⟩
    · cases e
    · have broken : (Fault.invalidAssignment place target reason).OfAssignment .leading :=
        .inl ⟨_, _, _, rfl⟩
      obtain ⟨-, t, type, -, fails⟩ := exists_checkAssignment_of_faultAt? here broken
      cases leading_fault_of_untyped untyped fails
  · intro a h
    rcases outcome_analyze_of_scan .leading h with same | ⟨f, i, t, target, -, passes, fails⟩
    · exact same
    · rw [leading_passes_of_statement_passes untyped passes] at fails
      cases fails
  · intro a h
    rcases outcome_analyze_of_scan .statement h with same | ⟨f, i, t, target, error, -, fails⟩
    · exact .inl same
    · exact .inr ⟨f, error, ofAssignment_of_checkAssignment fails⟩

/-- Opens a body for a program that declares an int and a string, and assigns the string to the
int. -/
def mismatchedProgram : List Token :=
  [.plain .generalId "demo" 1, .plain .semicolon ";" 1,
    .plain .intId "n" 2, .plain .intKw "int" 2, .plain .semicolon ";" 2,
    .plain .stringId "s" 3, .plain .stringKw "string" 3, .plain .semicolon ";" 3,
    .plain .beginKw "begin" 4,
    .plain .intId "n" 5, .plain .assign "=" 5, .plain .stringId "s" 5, .plain .semicolon ";" 5]

/-- Starts with the declaration of a boolean, which holds no truth value, and assigns one twice. -/
def untrueProgram : List Token :=
  [.plain .booleanId "b" 1, .plain .booleanKw "boolean" 1, .plain .semicolon ";" 1,
    .plain .beginKw "begin" 2,
    .plain .booleanId "b" 3, .plain .assign "=" 3, .plain .trueConst "true" 3,
    .plain .semicolon ";" 3,
    .plain .booleanId "b" 4, .plain .assign "=" 4, .plain .falseConst "false" 4,
    .plain .semicolon ";" 4]

/-- The leading scan accepts what the other refuses, and refuses the first of two assignments that
the other accepts. -/
theorem scans_of_programs :
    (∃ a, (analyze { scan := .leading } mismatchedProgram).outcome = .ok a ∧
      ∃ f, (analyze { scan := .statement } mismatchedProgram).outcome = .error f ∧
        f.OfAssignment .statement) ∧
      (∃ a, (analyze { scan := .statement } untrueProgram).outcome = .ok a) ∧
      ∃ f i, (analyze { scan := .leading } untrueProgram).outcome = .error f ∧
        RaisedAt { scan := .leading } untrueProgram i f ∧ FirstAssignmentAt untrueProgram i := by
  refine ⟨?_, ⟨_, rfl⟩, ?_⟩
  · obtain ⟨a, ha⟩ : ∃ a, (analyze { scan := .leading } mismatchedProgram).outcome = .ok a :=
      ⟨_, rfl⟩
    obtain ⟨-, -, accepted⟩ := (scans_compared {} mismatchedProgram).2.2 rfl
    rcases accepted a ha with same | refused
    · cases same
    · exact ⟨a, ha, refused⟩
  · obtain ⟨f, hf, broken⟩ : ∃ f, (analyze { scan := .leading } untrueProgram).outcome =
        .error f ∧ f.OfAssignment .leading := ⟨_, rfl, .inl ⟨_, _, _, rfl⟩⟩
    obtain ⟨i, raised, first⟩ := (scans_compared {} untrueProgram).1 f hf broken
    exact ⟨f, i, hf, raised, first⟩

end Pseudocode
