/-
  Pseudocode.Check.Sections — the parts of a token stream.

  A program is its declarations and its body; the first body-begin keyword opens the body. Within
  a section, a statement reaches to the next semicolon.

  - `beforeSemicolon_eq_some_iff`: what `beforeSemicolon` gives is followed by a semicolon and
    holds none.
-/

import Pseudocode.Trace

namespace Pseudocode

def Token.isBegin (t : Token) : Bool := t.kind = .beginKw

def Token.isSemicolon (t : Token) : Bool := t.kind = .semicolon

/-- The declarations and the body of a program. -/
structure Sections where
  declarations : List Token
  body : List Token
  deriving DecidableEq, Repr

/-- Cuts a stream before its first body-begin keyword. -/
def Sections.split : List Token → Except Fault Sections
  | [] => .error .missingBody
  | t :: rest =>
    if t.isBegin then .ok ⟨[], t :: rest⟩
    else (split rest).map fun s => { s with declarations := t :: s.declarations }

/-- The tokens before the first semicolon, when there is one. -/
def beforeSemicolon : List Token → Option (List Token)
  | [] => none
  | t :: rest => if t.isSemicolon then some [] else (beforeSemicolon rest).map (t :: ·)

theorem beforeSemicolon_eq_some_iff {tokens before : List Token} :
    beforeSemicolon tokens = some before ↔
      (∀ t ∈ before, t.isSemicolon = false) ∧
        ∃ t rest, tokens = before ++ t :: rest ∧ t.isSemicolon = true := by
  induction tokens generalizing before with
  | nil => simp [beforeSemicolon]
  | cons t rest ih =>
    rw [beforeSemicolon]
    by_cases h : t.isSemicolon = true
    · cases before with
      | nil => simp [h]
      | cons b before =>
        rw [if_pos h]
        refine ⟨fun e => (nomatch e), ?_⟩
        rintro ⟨none, s, more, eq, -⟩
        cases eq
        simp [none t] at h
    · rw [if_neg h]
      cases before with
      | nil =>
        refine ⟨fun e => by simp at e, ?_⟩
        rintro ⟨-, s, more, eq, hs⟩
        cases eq
        exact absurd hs h
      | cons b before =>
        simp only [Option.map_eq_some_iff, List.cons.injEq, List.forall_mem_cons,
          List.cons_append]
        constructor
        · rintro ⟨u, hu, rfl, rfl⟩
          obtain ⟨none, s, more, eq, hs⟩ := ih.1 hu
          exact ⟨⟨by simpa using h, none⟩, s, more, ⟨rfl, eq⟩, hs⟩
        · rintro ⟨⟨-, none⟩, s, more, ⟨rfl, eq⟩, hs⟩
          exact ⟨before, ih.2 ⟨none, s, more, eq, hs⟩, rfl, rfl⟩

theorem beforeSemicolon_eq_none_iff {tokens : List Token} :
    beforeSemicolon tokens = none ↔ ∀ t ∈ tokens, t.isSemicolon = false := by
  induction tokens with
  | nil => simp [beforeSemicolon]
  | cons t rest ih =>
    rw [beforeSemicolon]
    by_cases h : t.isSemicolon = true <;> simp [h, ih]

end Pseudocode
