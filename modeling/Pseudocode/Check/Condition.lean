/-
  Pseudocode.Check.Condition — where a condition ends and what it needs.

  A condition starts two tokens after its keyword, behind the opening parenthesis. What closes it
  is told by its construct: `if ( … ) then begin` and `while ( … ) do begin` end three tokens
  before the body-begin keyword, `until ( … ) ;` ends two tokens before the semicolon. A condition
  needs a relational or a logical operator.

  - `conditionEnd?_eq_some_iff`: the condition ends at the first place that has the closing kind
    at the construct's distance.
-/

import Pseudocode.Check.Assignment

namespace Pseudocode

namespace Construct

/-- The kind of the token that closes a condition. -/
def closingKind : Construct → Kind
  | .ifThen => .beginKw
  | .whileDo => .beginKw
  | .repeatUntil => .semicolon

/-- How many tokens the closing token stands behind the last token of a condition. -/
def closingDistance : Construct → Nat
  | .ifThen => 3
  | .whileDo => 3
  | .repeatUntil => 2

theorem two_le_closingDistance (c : Construct) : 2 ≤ c.closingDistance := by
  cases c <;> decide

/-- The closing token as messages describe it. -/
def terminator : Construct → String
  | .ifThen => "'begin' closing the condition"
  | .whileDo => "'begin' closing the condition"
  | .repeatUntil => "';' closing the condition"

end Construct

/-- The construct whose condition starts at `index`. -/
def constructAt? (tokens : List Token) : Nat → Option Construct
  | 0 => none
  | 1 => none
  | keyword + 2 => tokens[keyword]?.bind (Construct.ofKeyword? ·.kind)

/-- Position of the last token of the condition that starts at `start`. -/
def conditionEnd? (construct : Construct) (tokens : List Token) (start : Nat) : Option Nat :=
  ((tokens.drop (start + construct.closingDistance)).findIdx?
    (·.kind = construct.closingKind)).map (start + ·)

/-- The tokens from `start` up to and including `last`. -/
def tokensFrom (tokens : List Token) (start last : Nat) : List Token :=
  (tokens.drop start).take (last + 1 - start)

/-- Checks the condition that starts with `token`, at `start` in the stream. -/
def checkCondition (construct : Construct) (tokens : List Token) (start : Nat) (token : Token) :
    Traced Unit :=
  match conditionEnd? construct tokens start with
  | none => .refuse (.unterminated token.place construct.terminator)
  | some last => do
    .note (.conditionSpanned construct start last)
    if (kindsOf (tokensFrom tokens start last)).intersects
        (KindSet.matching Kind.isConditionOperator) then
      pure ()
    else
      .refuse (.invalidCondition token.place construct)

theorem conditionEnd?_eq_some_iff {construct : Construct} {tokens : List Token}
    {start last : Nat} :
    conditionEnd? construct tokens start = some last ↔
      start ≤ last ∧
        (∃ t, tokens[last + construct.closingDistance]? = some t ∧
          t.kind = construct.closingKind) ∧
        ∀ i, start ≤ i → i < last →
          ∀ t, tokens[i + construct.closingDistance]? = some t → t.kind ≠ construct.closingKind := by
  have at_ (i : Nat) : (tokens.drop (start + construct.closingDistance))[i]? =
      tokens[start + i + construct.closingDistance]? := by
    rw [List.getElem?_drop]
    congr 1
    omega
  simp only [conditionEnd?, Option.map_eq_some_iff, List.findIdx?_eq_some_iff_getElem]
  constructor
  · rintro ⟨n, ⟨lt, eq, before⟩, rfl⟩
    refine ⟨by omega, ⟨_, (at_ n) ▸ List.getElem?_eq_getElem lt, by simpa using eq⟩, ?_⟩
    intro i le below t ht
    obtain ⟨j, rfl⟩ := Nat.exists_eq_add_of_le le
    rw [← at_] at ht
    obtain ⟨hj, rfl⟩ := List.getElem?_eq_some_iff.1 ht
    simpa using before j (by omega)
  · rintro ⟨le, ⟨t, ht, eq⟩, before⟩
    obtain ⟨n, rfl⟩ := Nat.exists_eq_add_of_le le
    rw [← at_] at ht
    obtain ⟨hn, rfl⟩ := List.getElem?_eq_some_iff.1 ht
    refine ⟨n, ⟨hn, by simpa using eq, fun j hj => ?_⟩, rfl⟩
    have lt : j < (tokens.drop (start + construct.closingDistance)).length := by omega
    have := before (start + j) (by omega) (by omega) _ (at_ j ▸ List.getElem?_eq_getElem lt)
    simpa using this

end Pseudocode
