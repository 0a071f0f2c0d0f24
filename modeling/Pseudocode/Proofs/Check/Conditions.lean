/-
  Pseudocode.Proofs.Check.Conditions — which conditions an analysis examines.

  The analysis looks for a condition from its first token: an identifier that stands two tokens
  behind `if`, `while` or `until` makes it scan ahead to what closes the construct. Where the scan
  starts in front of a condition, its fixed offsets lead to the tokens between the parentheses, no
  more and no less. But no other token starts it. A condition that begins with a constant, with a
  further parenthesis or with any other punctuation is not looked at, and may do without an
  operator.

  Proved:
  (1) A condition passes its check exactly when it is closed and holds a relational or a logical
      operator (`fault?_checkCondition_eq_none_iff`).
  (2) Between the parentheses of a construct, the scan examines exactly what stands there
      (`conditionEnd?_of_closedFrom`, `tokensFrom_of_closedFrom`).
  (3) A stream without an identifier is accepted as soon as it has a body
      (`outcome_analyze_of_no_identifiers`).
  (4) For which kinds every accepted condition that begins with a token of the kind has an operator:
      those of identifiers, and operators themselves (`hasOperator_by_first_kind`).
  (5) `if (true) then begin` is accepted (`constantCondition_accepted`).
-/

import Pseudocode.Proofs.Check.Verdict

namespace Pseudocode

/-! ## Conditions in a stream -/

/-- The kinds behind a condition, from its parenthesis to the token that closes it. -/
def Construct.closers : Construct → List Kind
  | .ifThen => [.rightParen, .thenKw, .beginKw]
  | .whileDo => [.rightParen, .doKw, .beginKw]
  | .repeatUntil => [.rightParen, .semicolon]

/-- From `start` on stands `condition`, and behind it what closes its construct; none of it is of
the kind that closes the construct. -/
structure ClosedFrom (construct : Construct) (tokens : List Token) (start : Nat)
    (condition : List Token) : Prop where
  shape : ∃ closing rest, tokens.drop start = condition ++ closing ++ rest ∧
    closing.map Token.kind = construct.closers
  isOpen : ∀ t ∈ condition, t.kind ≠ construct.closingKind

/-- Whether some token is a relational or a logical operator. -/
def HasOperator (tokens : List Token) : Prop := ∃ t ∈ tokens, t.kind.isConditionOperator = true

/-- The keyword of a construct stands at `i` in the body, and `condition` between its parentheses;
none of it is of the kind that closes the construct. -/
structure ConditionAt (construct : Construct) (tokens : List Token) (i : Nat)
    (condition : List Token) : Prop where
  inBody : ∃ m ≤ i, tokens.findIdx? Token.isBegin = some m
  shape : ∃ keyword paren closing rest,
    tokens.drop i = keyword :: paren :: (condition ++ closing ++ rest) ∧
      keyword.kind = construct.keyword ∧ paren.kind = .leftParen ∧
      closing.map Token.kind = construct.closers
  isOpen : ∀ t ∈ condition, t.kind ≠ construct.closingKind

/-! ## The check of a condition -/

theorem intersects_isConditionOperator_iff {tokens : List Token} :
    (kindsOf tokens).intersects (KindSet.matching Kind.isConditionOperator) = true ↔
      HasOperator tokens := by
  simp only [KindSet.intersects_iff, KindSet.contains_matching, contains_kindsOf]
  constructor
  · rintro ⟨k, ⟨t, mem, rfl⟩, operator⟩
    exact ⟨t, mem, operator⟩
  · rintro ⟨t, mem, operator⟩
    exact ⟨t.kind, ⟨t, mem, rfl⟩, operator⟩

/-- A condition passes when it is closed and has an operator. -/
theorem fault?_checkCondition_eq_none_iff {construct : Construct} {tokens : List Token}
    {start : Nat} {t : Token} :
    (checkCondition construct tokens start t).fault? = none ↔
      ∃ last, conditionEnd? construct tokens start = some last ∧
        HasOperator (tokensFrom tokens start last) := by
  rw [Traced.fault?_eq_none_iff]
  unfold checkCondition
  cases conditionEnd? construct tokens start with
  | none => simp
  | some last =>
    by_cases operator : HasOperator (tokensFrom tokens start last) <;>
      simp [intersects_isConditionOperator_iff, operator]

/-! ## The offsets of the scan -/

/-- Among the closers only the last one is of the closing kind, at the distance of the scan. -/
theorem Construct.getElem?_closers_eq_closingKind_iff (construct : Construct) (x : Nat) :
    construct.closers[x]? = some construct.closingKind ↔ x + 1 = construct.closingDistance := by
  match x with
  | 0 => cases construct <;> decide
  | 1 => cases construct <;> decide
  | 2 => cases construct <;> decide
  | x + 3 => cases construct <;> simp [closers, closingDistance]

theorem Construct.length_closers (construct : Construct) :
    construct.closers.length = construct.closingDistance := by
  cases construct <;> rfl

section Offsets

variable {construct : Construct} {tokens condition : List Token} {start last : Nat}
  (h : ClosedFrom construct tokens start condition)

include h

/-- The kinds from the condition on. -/
theorem exists_kinds_of_closedFrom :
    ∃ rest, ∀ x, tokens[start + x]?.map Token.kind =
      (condition.map Token.kind ++ construct.closers ++ rest)[x]? := by
  obtain ⟨closing, rest, shape, closers⟩ := h.shape
  refine ⟨rest.map Token.kind, ?_⟩
  intro x
  rw [← closers, ← List.map_append, ← List.map_append, List.getElem?_map, ← List.getElem?_drop,
    shape]

/-- From the condition up to what closes its construct, the closing kind stands at the end only. -/
theorem closingKind_of_closedFrom {x : Nat}
    (lt : x < condition.length + construct.closingDistance) :
    tokens[start + x]?.map Token.kind = some construct.closingKind ↔
      x + 1 = condition.length + construct.closingDistance := by
  obtain ⟨rest, kinds⟩ := exists_kinds_of_closedFrom h
  have long := construct.length_closers
  rw [kinds, List.getElem?_append_left (by simp; omega)]
  rcases Nat.lt_or_ge x condition.length with inside | behind
  · rw [List.getElem?_append_left (by simpa using inside), List.getElem?_map,
      List.getElem?_eq_getElem inside]
    have other : condition[x].kind ≠ construct.closingKind :=
      h.isOpen _ (List.getElem_mem inside)
    have : x + 1 ≠ condition.length + construct.closingDistance := by
      have := construct.two_le_closingDistance
      omega
    simp [other, this]
  · rw [List.getElem?_append_right (by simpa using behind), List.length_map,
      construct.getElem?_closers_eq_closingKind_iff]
    omega

/-- The scan that starts in front of a condition stops at its last token. -/
theorem conditionEnd?_of_closedFrom (nonempty : condition ≠ [])
    (end_ : last + 1 = start + condition.length) :
    conditionEnd? construct tokens start = some last := by
  have pos : 0 < condition.length := List.length_pos_of_ne_nil nonempty
  have distance := construct.two_le_closingDistance
  rw [conditionEnd?_eq_some_iff]
  refine ⟨by omega, ?_, ?_⟩
  · have closes := (closingKind_of_closedFrom h
      (x := condition.length + construct.closingDistance - 1) (by omega)).2 (by omega)
    rw [show start + (condition.length + construct.closingDistance - 1) =
      last + construct.closingDistance by omega, Option.map_eq_some_iff] at closes
    exact closes
  · intro j le lt t ht closes
    have here : tokens[start + (j + construct.closingDistance - start)]? = some t := by
      rw [show start + (j + construct.closingDistance - start) = j + construct.closingDistance by
        omega, ht]
    have := (closingKind_of_closedFrom h (x := j + construct.closingDistance - start)
      (by omega)).1 (by rw [here, Option.map_some, closes])
    omega

/-- The tokens from the first to the last one of a condition are the condition. -/
theorem tokensFrom_of_closedFrom (end_ : last + 1 = start + condition.length) :
    tokensFrom tokens start last = condition := by
  obtain ⟨closing, rest, shape, -⟩ := h.shape
  rw [tokensFrom, shape, end_, Nat.add_sub_cancel_left, List.append_assoc, List.take_left]

end Offsets

section Parentheses

variable {construct : Construct} {tokens condition : List Token} {i : Nat}
  (h : ConditionAt construct tokens i condition)

include h

/-- Behind its keyword and its parenthesis a condition is closed. -/
theorem closedFrom_of_conditionAt : ClosedFrom construct tokens (i + 2) condition := by
  obtain ⟨keyword, paren, closing, rest, shape, -, -, closers⟩ := h.shape
  refine ⟨⟨closing, rest, ?_, closers⟩, h.isOpen⟩
  rw [← List.drop_drop, shape]
  rfl

/-- The check that starts in front of a condition asks for an operator in the condition. -/
theorem fault?_checkCondition_of_conditionAt (nonempty : condition ≠ []) (t : Token) :
    (checkCondition construct tokens (i + 2) t).fault? = none ↔ HasOperator condition := by
  have closed := closedFrom_of_conditionAt h
  have end_ : i + 1 + condition.length + 1 = i + 2 + condition.length := by omega
  rw [fault?_checkCondition_eq_none_iff, conditionEnd?_of_closedFrom closed nonempty end_]
  simp [tokensFrom_of_closedFrom closed end_]

theorem keywordBefore?_of_conditionAt : keywordBefore? tokens (i + 2) = some construct := by
  obtain ⟨keyword, paren, closing, rest, shape, hk, -⟩ := h.shape
  have here : tokens[i]? = some keyword := by
    rw [← Nat.add_zero i, ← List.getElem?_drop, shape]
    rfl
  simp [keywordBefore?, here, Construct.ofKeyword?_eq_some_iff, hk]

end Parentheses

/-! ## Which conditions are examined -/

/-- An accepted condition that begins with an identifier has an operator. -/
theorem hasOperator_of_identifier {settings : Settings} {tokens : List Token} {a : Analysis}
    {construct : Construct} {i : Nat} {first : Token} {more : List Token}
    (accepted : (analyze settings tokens).outcome = .ok a)
    (h : ConditionAt construct tokens i (first :: more)) (hid : first.isIdentifier = true) :
    HasOperator (first :: more) := by
  obtain ⟨m, le, hm⟩ := h.inBody
  obtain ⟨quiet, -⟩ := (outcome_analyze_eq_ok_iff_of_begin hm).1 accepted
  obtain ⟨keyword, paren, closing, rest, shape, -⟩ := h.shape
  have here : tokens[i + 2]? = some first := by
    rw [← List.getElem?_drop, shape]
    rfl
  have passes := fault?_checkCondition_of_quiet (quiet (i + 2)) (by omega) here hid
    (keywordBefore?_of_conditionAt h)
  exact (fault?_checkCondition_of_conditionAt h (by simp) first).1 passes

/-- Where no token is an identifier there is nothing to check but that a body begins. -/
theorem outcome_analyze_of_no_identifiers (settings : Settings) {tokens : List Token} {m : Nat}
    (hm : tokens.findIdx? Token.isBegin = some m)
    (none : ∀ t ∈ tokens, t.isIdentifier = false) :
    (analyze settings tokens).outcome = .ok (analysisOf settings tokens m) := by
  refine (outcome_analyze_eq_ok_iff_of_begin hm).2 ⟨?_, rfl⟩
  intro i
  cases ht : tokens[i]? with
  | none => exact faultAt?_of_length_le (List.getElem?_eq_none_iff.1 ht)
  | some t => exact faultAt?_of_not_identifier ht (none t (List.mem_of_getElem? ht))

/-- A body of one construct whose condition is a single token of a kind. -/
def singleCondition (construct : Construct) (k : Kind) : List Token :=
  ([.beginKw, construct.keyword, .leftParen, k] ++ construct.closers).map fun kind =>
    .plain kind kind.name 1

theorem conditionAt_singleCondition {construct : Construct} {k : Kind}
    (other : k ≠ construct.closingKind) :
    ConditionAt construct (singleCondition construct k) 1 [.plain k k.name 1] := by
  refine ⟨⟨0, Nat.zero_le 1, rfl⟩, ?_, ?_⟩
  · refine ⟨.plain construct.keyword construct.keyword.name 1, .plain .leftParen Kind.leftParen.name 1,
      construct.closers.map fun kind => .plain kind kind.name 1, [], ?_, rfl, rfl, ?_⟩
    · cases construct <;> rfl
    · cases construct <;> rfl
  · intro t mem
    rw [List.mem_singleton.1 mem]
    exact other

theorem not_identifier_of_mem_singleCondition {construct : Construct} {k : Kind}
    (plain : k.isIdentifier = false) :
    ∀ t ∈ singleCondition construct k, t.isIdentifier = false := by
  have keyword : construct.keyword.isIdentifier = false := by cases construct <;> rfl
  have closers : ∀ kind ∈ construct.closers, kind.isIdentifier = false := by
    cases construct <;> decide
  intro t mem
  obtain ⟨kind, among, rfl⟩ := List.mem_map.1 mem
  show kind.isIdentifier = false
  rcases List.mem_append.1 among with front | back
  · simp only [List.mem_cons, List.not_mem_nil, or_false] at front
    rcases front with rfl | rfl | rfl | rfl
    · rfl
    · exact keyword
    · rfl
    · exact plain
  · exact closers kind back

/-- The kind of its first token tells whether a condition is sure to have an operator: it is when
that token is an identifier, which starts the check, or an operator itself. (A condition does not
begin with what closes its construct.) Among the conditions that begin with any other kind, an
accepted one has none. -/
theorem hasOperator_by_first_kind (construct : Construct) (k : Kind) :
    (∀ settings tokens a i first more, (analyze settings tokens).outcome = .ok a →
        ConditionAt construct tokens i (first :: more) → first.kind = k →
        HasOperator (first :: more)) ↔
      k.isIdentifier = true ∨ k.isConditionOperator = true ∨ k = construct.closingKind := by
  constructor
  · intro sure
    by_contra unsure
    simp only [not_or, Bool.not_eq_true] at unsure
    obtain ⟨plain, operand, other⟩ := unsure
    have accepted : (analyze {} (singleCondition construct k)).outcome =
        .ok (analysisOf {} (singleCondition construct k) 0) :=
      outcome_analyze_of_no_identifiers {} rfl (not_identifier_of_mem_singleCondition plain)
    obtain ⟨t, mem, operator⟩ :=
      sure {} _ _ 1 _ [] accepted (conditionAt_singleCondition other) rfl
    rw [List.mem_singleton.1 mem] at operator
    exact Bool.false_ne_true (operand.symm.trans operator)
  · intro sure settings tokens a i first more accepted h hk
    rcases sure with hid | operator | closing
    · exact hasOperator_of_identifier accepted h (by rw [Token.isIdentifier, hk, hid])
    · exact ⟨first, List.mem_cons_self, by rw [hk, operator]⟩
    · exact absurd (hk.trans closing) (h.isOpen first List.mem_cons_self)

/-- A body of `if (true) then begin end`. -/
def constantCondition : List Token :=
  [.plain .beginKw "begin" 1, .plain .ifKw "if" 2, .plain .leftParen "(" 2,
    .plain .trueConst "true" 2, .plain .rightParen ")" 2, .plain .thenKw "then" 2,
    .plain .beginKw "begin" 2, .plain .endKw "end" 3]

/-- A condition that is a constant is accepted, though it has no operator. -/
theorem constantCondition_accepted :
    ∃ a, (analyze {} constantCondition).outcome = .ok a ∧
      ConditionAt .ifThen constantCondition 1 [.plain .trueConst "true" 2] ∧
      ¬ HasOperator [.plain .trueConst "true" 2] := by
  refine ⟨analysisOf {} constantCondition 0, rfl, ⟨⟨0, by decide, rfl⟩, ?_, by decide⟩, ?_⟩
  · exact ⟨.plain .ifKw "if" 2, .plain .leftParen "(" 2,
      [.plain .rightParen ")" 2, .plain .thenKw "then" 2, .plain .beginKw "begin" 2],
      [.plain .endKw "end" 3], rfl, rfl, rfl, rfl⟩
  · intro ⟨t, mem, operator⟩
    rw [List.mem_singleton.1 mem] at operator
    cases operator

end Pseudocode
