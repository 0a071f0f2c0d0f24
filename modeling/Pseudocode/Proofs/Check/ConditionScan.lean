/-
  Pseudocode.Proofs.Check.ConditionScan — what the scan of a condition takes in.

  The scan goes from token to token. It takes the kind of each one into a set and then looks ahead,
  by the distance of the construct: where the closing kind stands there, the condition ends with the
  token just taken; where the stream has no token there, the scan fails. It does not look at the
  tokens between, so a closing kind that stands closer than the distance to the start goes unseen.

  What comes of this can be said by positions. The condition ends where the first closing kind at
  the distance or further is, less the distance; what is taken in are the kinds from the start up to
  there. The check asks for an operator among them. Without a closing kind the scan fails, and the
  check with it; that is not an invalid condition (`unclosedCondition_unterminated`).

  Proved:
  (1) The scan by steps finds what the search for the closing kind finds (`gather_eq`), and the
      check goes by the scan (`outcome_checkCondition_eq_scan`).
  (2) A condition ends at the first closing kind, less the distance
      (`conditionEnd?_eq_some_iff_firstOf`), or nowhere (`conditionEnd?_eq_none_iff`).
  (3) What is scanned and decided, for every start (`condition_scan_exact`).
-/

import Pseudocode.Proofs.Check.AssignmentLaw
import Pseudocode.Proofs.Check.Conditions

namespace Pseudocode

/-! ## The scan by steps -/

/-- Whether the closing kind stands at the distance behind `i`; nothing when the stream ends before
that. -/
def Construct.closesBehind? (construct : Construct) (tokens : List Token) (i : Nat) :
    Option Bool :=
  tokens[i + construct.closingDistance]?.map fun t => decide (t.kind = construct.closingKind)

/-- Takes in the kinds of the tokens from position `i` on, one after the other, up to the end of the
condition. -/
def gather (construct : Construct) (tokens : List Token) :
    Nat → List Token → KindSet → Option KindSet
  | _, [], _ => none
  | i, t :: rest, found =>
    match construct.closesBehind? tokens i with
    | some true => some (found.insert t.kind)
    | some false => gather construct tokens (i + 1) rest (found.insert t.kind)
    | none => none

/-- The kinds of the condition that starts with `token`, at `start` in the stream. -/
def scanCondition (construct : Construct) (tokens : List Token) (start : Nat) (token : Token) :
    Except Fault KindSet :=
  match gather construct tokens start (tokens.drop start) .empty with
  | some found => .ok found
  | none => .error (.unterminated token.place construct.terminator)

/-! ## Positions -/

/-- At `b` stands the first token of a kind from `start` on. -/
structure FirstOf (kind : Kind) (tokens : List Token) (start b : Nat) : Prop where
  le : start ≤ b
  here : ∃ t, tokens[b]? = some t ∧ t.kind = kind
  before : ∀ j, start ≤ j → j < b → ∀ t, tokens[j]? = some t → t.kind ≠ kind

/-- No token of a kind stands from `start` on. -/
def NoneFrom (kind : Kind) (tokens : List Token) (start : Nat) : Prop :=
  ∀ j, start ≤ j → ∀ t, tokens[j]? = some t → t.kind ≠ kind

/-- A token has a kind with a property, from `start` on and, at least by the construct's distance,
in front of `b`. -/
def Construct.Holds (construct : Construct) (tokens : List Token) (start b : Nat)
    (p : Kind → Prop) : Prop :=
  ∃ j, start ≤ j ∧ j + construct.closingDistance ≤ b ∧ ∃ t, tokens[j]? = some t ∧ p t.kind

section End

variable {construct : Construct} {tokens : List Token} {start last : Nat}

/-- A condition ends at the first closing kind, less the distance. -/
theorem conditionEnd?_eq_some_iff_firstOf :
    conditionEnd? construct tokens start = some last ↔
      FirstOf construct.closingKind tokens (start + construct.closingDistance)
        (last + construct.closingDistance) := by
  rw [conditionEnd?_eq_some_iff]
  constructor
  · rintro ⟨le, here, before⟩
    refine ⟨by omega, here, ?_⟩
    intro j ge lt t ht
    refine before (j - construct.closingDistance) (by omega) (by omega) t ?_
    rw [Nat.sub_add_cancel (by omega), ht]
  · rintro ⟨le, here, before⟩
    refine ⟨by omega, here, ?_⟩
    intro i ge lt t ht
    exact before (i + construct.closingDistance) (by omega) (by omega) t ht

/-- A condition ends nowhere when no closing kind stands at the distance or further. -/
theorem conditionEnd?_eq_none_iff :
    conditionEnd? construct tokens start = none ↔
      NoneFrom construct.closingKind tokens (start + construct.closingDistance) := by
  rw [conditionEnd?, Option.map_eq_none_iff, List.findIdx?_eq_none_iff]
  constructor
  · intro none j ge t ht
    have mem : t ∈ tokens.drop (start + construct.closingDistance) := by
      refine List.mem_of_getElem? (i := j - (start + construct.closingDistance)) ?_
      rw [List.getElem?_drop, Nat.add_sub_cancel' ge, ht]
    simpa using none t mem
  · intro none t mem
    obtain ⟨n, hn⟩ := List.getElem?_of_mem mem
    rw [List.getElem?_drop] at hn
    simpa using none _ (Nat.le_add_right _ n) t hn

theorem mem_tokensFrom_iff {t : Token} :
    t ∈ tokensFrom tokens start last ↔ ∃ j, start ≤ j ∧ j ≤ last ∧ tokens[j]? = some t := by
  rw [tokensFrom, mem_take_drop_iff]
  simp only [Nat.lt_succ_iff]

/-- The tokens of a condition are those at its positions. -/
theorem exists_mem_tokensFrom_iff_holds {p : Kind → Prop} :
    (∃ t ∈ tokensFrom tokens start last, p t.kind) ↔
      construct.Holds tokens start (last + construct.closingDistance) p := by
  unfold Construct.Holds
  simp only [mem_tokensFrom_iff, Nat.add_le_add_iff_right]
  constructor
  · rintro ⟨t, ⟨j, ge, le, ht⟩, hp⟩
    exact ⟨j, ge, le, t, ht, hp⟩
  · rintro ⟨j, ge, le, t, ht, hp⟩
    exact ⟨t, ⟨j, ge, le, ht⟩, hp⟩

theorem hasOperator_iff_holds (construct : Construct) :
    HasOperator (tokensFrom tokens start last) ↔
      construct.Holds tokens start (last + construct.closingDistance)
        fun k => k.isRelational = true ∨ k.isLogical = true := by
  rw [← exists_mem_tokensFrom_iff_holds]
  simp only [HasOperator, Kind.isConditionOperator, Bool.or_eq_true]

end End

/-! ## What the scan finds -/

section Scan

variable {construct : Construct} {tokens : List Token} {start : Nat}

/-- The search for the closing kind, one step on. -/
theorem conditionEnd?_step (construct : Construct) (tokens : List Token) (start : Nat) :
    conditionEnd? construct tokens start =
      match construct.closesBehind? tokens start with
      | some true => some start
      | some false => conditionEnd? construct tokens (start + 1)
      | none => none := by
  unfold Construct.closesBehind?
  cases ahead : tokens[start + construct.closingDistance]? with
  | none =>
    have out := List.getElem?_eq_none_iff.1 ahead
    rw [conditionEnd?, List.drop_eq_nil_iff.2 out]
    rfl
  | some t =>
    obtain ⟨inside, rfl⟩ := List.getElem?_eq_some_iff.1 ahead
    rw [conditionEnd?, List.drop_eq_getElem_cons inside, List.findIdx?_cons]
    by_cases closes : tokens[start + construct.closingDistance].kind = construct.closingKind
    · simp [closes]
    · have further : start + 1 + construct.closingDistance =
          start + construct.closingDistance + 1 := by omega
      have shift : ((start + ·) ∘ (· + 1)) = (start + 1 + ·) := by
        funext n
        show start + (n + 1) = start + 1 + n
        omega
      simp only [closes, decide_false, Bool.false_eq_true, if_false, Option.map_some,
        Option.map_map, conditionEnd?, further, shift]

theorem le_of_conditionEnd? {last : Nat} (h : conditionEnd? construct tokens start = some last) :
    start ≤ last :=
  (conditionEnd?_eq_some_iff.1 h).1

/-- The condition one token on is the condition without its first token. -/
theorem tokensFrom_cons {t : Token} {rest : List Token} {last : Nat}
    (here : tokens.drop start = t :: rest) (le : start ≤ last) :
    tokensFrom tokens start last = t :: tokensFrom tokens (start + 1) last := by
  rw [tokensFrom, tokensFrom, ← List.drop_drop, here, List.drop_one, List.tail_cons,
    show last + 1 - start = (last + 1 - (start + 1)) + 1 by omega, List.take_succ_cons]

theorem tokensFrom_eq_nil {last : Nat} (lt : last < start) : tokensFrom tokens start last = [] := by
  rw [tokensFrom, show last + 1 - start = 0 by omega, List.take_zero]

/-- The scan by steps takes in the kinds up to the end of the condition, on top of what it had. -/
theorem gather_eq (construct : Construct) (tokens : List Token) (start : Nat) (found : KindSet) :
    gather construct tokens start (tokens.drop start) found =
      (conditionEnd? construct tokens start).map fun last =>
        ((tokensFrom tokens start last).map Token.kind).foldl KindSet.insert found := by
  induction rest : tokens.drop start generalizing start found with
  | nil =>
    have out : tokens.length ≤ start := List.drop_eq_nil_iff.1 rest
    have ahead : tokens[start + construct.closingDistance]? = none :=
      List.getElem?_eq_none (by omega)
    rw [gather, conditionEnd?_step, Construct.closesBehind?, ahead]
    rfl
  | cons t more ih =>
    have next : tokens.drop (start + 1) = more := by
      rw [← List.drop_drop, rest]
      rfl
    rw [gather, conditionEnd?_step]
    cases construct.closesBehind? tokens start with
    | none => rfl
    | some closes =>
      cases closes with
      | true =>
        simp only [Option.map_some, tokensFrom_cons rest (Nat.le_refl start),
          tokensFrom_eq_nil (Nat.lt_succ_self start)]
        rfl
      | false =>
        simp only
        rw [ih (start + 1) (found.insert t.kind) next]
        refine Option.map_congr fun last h => ?_
        rw [tokensFrom_cons rest (Nat.le_of_succ_le (le_of_conditionEnd? h))]
        rfl

/-- The scan finds the kinds of the condition, when that has an end. -/
theorem scanCondition_eq (construct : Construct) (tokens : List Token) (start : Nat) (t : Token) :
    scanCondition construct tokens start t =
      match conditionEnd? construct tokens start with
      | some last => .ok (kindsOf (tokensFrom tokens start last))
      | none => .error (.unterminated t.place construct.terminator) := by
  rw [scanCondition, gather_eq]
  cases conditionEnd? construct tokens start <;> rfl

/-- A condition is checked by what its scan finds. -/
theorem outcome_checkCondition_eq_scan (construct : Construct) (tokens : List Token) (start : Nat)
    (t : Token) :
    (checkCondition construct tokens start t).outcome =
      scanCondition construct tokens start t >>= fun found =>
        if found.intersects (KindSet.matching Kind.isConditionOperator) then .ok ()
        else .error (.invalidCondition t.place construct) := by
  rw [checkCondition, scanCondition_eq]
  cases conditionEnd? construct tokens start with
  | none => rfl
  | some last =>
    simp only [Traced.outcome_bind, Traced.outcome_note, ok_bind]
    split <;> rfl

end Scan

/-! ## Closed and unclosed conditions -/

section Closed

variable {construct : Construct} {tokens : List Token} {start b : Nat}

/-- A condition is closed by the first closing kind, or it is not closed. -/
theorem firstOf_or_noneFrom (construct : Construct) (tokens : List Token) (start : Nat) :
    (∃ b, FirstOf construct.closingKind tokens (start + construct.closingDistance) b) ∨
      NoneFrom construct.closingKind tokens (start + construct.closingDistance) := by
  cases found : conditionEnd? construct tokens start with
  | some last => exact .inl ⟨_, conditionEnd?_eq_some_iff_firstOf.1 found⟩
  | none => exact .inr (conditionEnd?_eq_none_iff.1 found)

theorem scanCondition_of_noneFrom
    (none : NoneFrom construct.closingKind tokens (start + construct.closingDistance))
    (t : Token) :
    scanCondition construct tokens start t =
      .error (.unterminated t.place construct.terminator) := by
  rw [scanCondition_eq, conditionEnd?_eq_none_iff.2 none]

theorem exists_conditionEnd?_of_firstOf
    (first : FirstOf construct.closingKind tokens (start + construct.closingDistance) b) :
    ∃ last, b = last + construct.closingDistance ∧
      conditionEnd? construct tokens start = some last := by
  have le := first.le
  obtain ⟨last, rfl⟩ : ∃ last, b = last + construct.closingDistance :=
    ⟨b - construct.closingDistance, by omega⟩
  exact ⟨last, rfl, conditionEnd?_eq_some_iff_firstOf.2 first⟩

/-- Where a condition is closed, the scan finds the kinds of its tokens, and no other. -/
theorem scanCondition_of_firstOf
    (first : FirstOf construct.closingKind tokens (start + construct.closingDistance) b)
    (t : Token) :
    ∃ found, scanCondition construct tokens start t = .ok found ∧
      ∀ k, found.contains k = true ↔ construct.Holds tokens start b (· = k) := by
  obtain ⟨last, rfl, found⟩ := exists_conditionEnd?_of_firstOf first
  refine ⟨kindsOf (tokensFrom tokens start last), by rw [scanCondition_eq, found], ?_⟩
  intro k
  rw [contains_kindsOf, ← exists_mem_tokensFrom_iff_holds]

theorem outcome_checkCondition_of_noneFrom
    (none : NoneFrom construct.closingKind tokens (start + construct.closingDistance))
    (t : Token) :
    (checkCondition construct tokens start t).outcome =
      .error (.unterminated t.place construct.terminator) := by
  rw [outcome_checkCondition_eq_scan, scanCondition_of_noneFrom none, error_bind]

/-- Where a condition is closed, it is judged by the operators among its tokens. -/
theorem outcome_checkCondition_of_firstOf
    (first : FirstOf construct.closingKind tokens (start + construct.closingDistance) b)
    (t : Token) [Decidable (construct.Holds tokens start b fun k =>
      k.isRelational = true ∨ k.isLogical = true)] :
    (checkCondition construct tokens start t).outcome =
      if construct.Holds tokens start b fun k => k.isRelational = true ∨ k.isLogical = true then
        .ok ()
      else .error (.invalidCondition t.place construct) := by
  obtain ⟨last, rfl, found⟩ := exists_conditionEnd?_of_firstOf first
  rw [outcome_checkCondition_eq_scan, scanCondition_eq, found, ok_bind]
  simp only [intersects_isConditionOperator_iff, hasOperator_iff_holds construct]

end Closed

/-- What is scanned and decided of a condition, wherever it starts. The check goes by the scan. The
scan fails, about the token that it starts with, exactly when no closing kind stands at the
construct's distance or further; otherwise it finds the kinds of the tokens up to the first one, less
the distance. So the check passes when there is a first one and an operator stands among those
tokens; it finds the condition unterminated when there is none, and invalid when there is one and no
operator. Where the tokens of a condition are followed by what closes the construct, they are what
is examined. -/
theorem condition_scan_exact {tokens : List Token} (construct : Construct)
    (start : Fin tokens.length) :
    (checkCondition construct tokens start tokens[start]).outcome =
      (scanCondition construct tokens start tokens[start] >>= fun found =>
        if found.intersects (KindSet.matching Kind.isConditionOperator) then .ok ()
        else .error (.invalidCondition tokens[start].place construct)) ∧
    (∀ fault, scanCondition construct tokens start tokens[start] = .error fault ↔
      NoneFrom construct.closingKind tokens (start + construct.closingDistance) ∧
        fault = .unterminated tokens[start].place construct.terminator) ∧
    (∀ b, FirstOf construct.closingKind tokens (start + construct.closingDistance) b →
      ∃ found, scanCondition construct tokens start tokens[start] = .ok found ∧
        ∀ k, found.contains k = true ↔ construct.Holds tokens start b (· = k)) ∧
    ((checkCondition construct tokens start tokens[start]).outcome = .ok () ↔
      ∃ b, FirstOf construct.closingKind tokens (start + construct.closingDistance) b ∧
        construct.Holds tokens start b fun k => k.isRelational = true ∨ k.isLogical = true) ∧
    (∀ fault, (checkCondition construct tokens start tokens[start]).outcome = .error fault ↔
      (NoneFrom construct.closingKind tokens (start + construct.closingDistance) ∧
        fault = .unterminated tokens[start].place construct.terminator) ∨
      ∃ b, FirstOf construct.closingKind tokens (start + construct.closingDistance) b ∧
        (¬ construct.Holds tokens start b fun k => k.isRelational = true ∨ k.isLogical = true) ∧
        fault = .invalidCondition tokens[start].place construct) ∧
    ∀ condition, condition ≠ [] → ClosedFrom construct tokens start condition →
      scanCondition construct tokens start tokens[start] = .ok (kindsOf condition) ∧
        ∃ last, conditionEnd? construct tokens start = some last ∧
          tokensFrom tokens start last = condition := by
  classical
  refine ⟨outcome_checkCondition_eq_scan construct tokens start _, ?_,
    fun b first => scanCondition_of_firstOf first _, ?_, ?_, ?_⟩
  · intro fault
    constructor
    · intro failed
      rcases firstOf_or_noneFrom construct tokens start with ⟨b, first⟩ | none
      · obtain ⟨found, scanned, -⟩ := scanCondition_of_firstOf first tokens[start]
        cases scanned.symm.trans failed
      · cases (scanCondition_of_noneFrom none tokens[start]).symm.trans failed
        exact ⟨none, rfl⟩
    · rintro ⟨none, rfl⟩
      exact scanCondition_of_noneFrom none _
  · constructor
    · intro passed
      rcases firstOf_or_noneFrom construct tokens start with ⟨b, first⟩ | none
      · rw [outcome_checkCondition_of_firstOf first] at passed
        split at passed
        · exact ⟨b, first, ‹_›⟩
        · cases passed
      · cases (outcome_checkCondition_of_noneFrom none tokens[start]).symm.trans passed
    · rintro ⟨b, first, operator⟩
      rw [outcome_checkCondition_of_firstOf first, if_pos operator]
  · intro fault
    constructor
    · intro failed
      rcases firstOf_or_noneFrom construct tokens start with ⟨b, first⟩ | none
      · rw [outcome_checkCondition_of_firstOf first] at failed
        split at failed
        · cases failed
        · cases failed
          exact .inr ⟨b, first, ‹_›, rfl⟩
      · cases (outcome_checkCondition_of_noneFrom none tokens[start]).symm.trans failed
        exact .inl ⟨none, rfl⟩
    · rintro (⟨none, rfl⟩ | ⟨b, first, plain, rfl⟩)
      · exact outcome_checkCondition_of_noneFrom none _
      · rw [outcome_checkCondition_of_firstOf first, if_neg plain]
  · intro condition nonempty closed
    have pos : 0 < condition.length := List.length_pos_of_ne_nil nonempty
    obtain ⟨last, end_⟩ : ∃ last, last + 1 = start + condition.length :=
      ⟨start + condition.length - 1, by omega⟩
    have found := conditionEnd?_of_closedFrom closed nonempty end_
    have examined := tokensFrom_of_closedFrom closed end_
    refine ⟨?_, last, found, examined⟩
    rw [scanCondition_eq, found]
    simp only [examined]

/-- `if ( begin > a ) then begin`, with a body-begin keyword as the first token of the condition. -/
def nearBegin : List Token :=
  [.plain .ifKw "if" 1, .plain .leftParen "(" 1, .plain .beginKw "begin" 1, .plain .gt ">" 1,
    .plain .intId "a" 1, .plain .rightParen ")" 1, .plain .thenKw "then" 1,
    .plain .beginKw "begin" 1]

theorem firstOf_nearBegin {start : Nat} (above : 2 < start) (le : start ≤ 7) :
    FirstOf .beginKw nearBegin start 7 := by
  have before : ∀ t ∈ (nearBegin.drop 3).take (7 - 3), t.kind ≠ .beginKw := by decide
  refine ⟨le, ⟨_, rfl, rfl⟩, ?_⟩
  intro j ge lt t ht
  exact before t (mem_take_drop_iff.2 ⟨j, by omega, lt, ht⟩)

/-- The first keyword is too near to end the scan and is taken in; a scan that starts behind it
takes in just what stands in front of the parenthesis. -/
theorem nearBegin_scanned :
    FirstOf .beginKw nearBegin (2 + 3) 7 ∧
    (∃ found, scanCondition .ifThen nearBegin 2 (.plain .beginKw "begin" 1) = .ok found ∧
      ∀ k, found.contains k = true ↔ Construct.ifThen.Holds nearBegin 2 7 (· = k)) ∧
    Construct.ifThen.Holds nearBegin 2 7 (· = .beginKw) ∧
    ClosedFrom .ifThen nearBegin 3 [.plain .gt ">" 1, .plain .intId "a" 1] ∧
    scanCondition .ifThen nearBegin 3 (.plain .gt ">" 1) = .ok (KindSet.ofList [.gt, .intId]) := by
  obtain ⟨-, -, near, -⟩ := condition_scan_exact .ifThen (⟨2, by decide⟩ : Fin nearBegin.length)
  obtain ⟨-, -, -, -, -, behind⟩ :=
    condition_scan_exact .ifThen (⟨3, by decide⟩ : Fin nearBegin.length)
  have first : FirstOf .beginKw nearBegin (2 + 3) 7 := firstOf_nearBegin (by decide) (by decide)
  have closed : ClosedFrom .ifThen nearBegin 3 [.plain .gt ">" 1, .plain .intId "a" 1] :=
    ⟨⟨[.plain .rightParen ")" 1, .plain .thenKw "then" 1, .plain .beginKw "begin" 1], [], rfl, rfl⟩,
      by decide⟩
  exact ⟨first, near 7 first, ⟨2, by decide, by decide, _, rfl, rfl⟩, closed,
    (behind _ (by decide) closed).1⟩

/-- Declares an int and opens a condition that nothing closes. -/
def unclosedCondition : List Token :=
  [.plain .intId "a" 1, .plain .intKw "int" 1, .plain .semicolon ";" 1, .plain .beginKw "begin" 2,
    .plain .ifKw "if" 3, .plain .leftParen "(" 3, .plain .intId "a" 3]

/-- A condition that is not closed does not pass, but it is not found invalid: its scan is
unterminated, and so is the analysis. -/
theorem unclosedCondition_unterminated :
    NoneFrom .beginKw unclosedCondition (6 + 3) ∧
    (checkCondition .ifThen unclosedCondition 6 (.plain .intId "a" 3)).outcome ≠ .ok () ∧
    (checkCondition .ifThen unclosedCondition 6 (.plain .intId "a" 3)).outcome ≠
      .error (.invalidCondition (Token.plain .intId "a" 3).place .ifThen) ∧
    (analyze {} unclosedCondition).outcome =
      .error (.unterminated (Token.plain .intId "a" 3).place "'begin' closing the condition") := by
  refine ⟨?_, by decide, by decide, by decide⟩
  intro j ge t ht
  rw [List.getElem?_eq_none (show unclosedCondition.length ≤ j from Nat.le_trans (by decide) ge)]
    at ht
  cases ht

end Pseudocode
