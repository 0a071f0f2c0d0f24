/-
  Pseudocode.Stream.Token — one occurrence of a token.

  The lexer that classified the program gives each token a table position: -2 to an identifier
  that still has to be resolved, -1 to every other token. Resolving an identifier records the
  address of its name, and from then on the address is what the token table shows.

  - `Token.tableIndex_resolve`: an address that a signed word of 64 bits holds is shown as it is.
-/

import Pseudocode.Lexicon.Kind
import Pseudocode.Stream.Span

namespace Pseudocode

/-- A token, where it stands in the program (`line`) and in the record file (`span`). -/
structure Token where
  kind : Kind
  lexeme : String
  line : Nat
  /-- Table position given by the lexer. -/
  position : Int
  /-- Address of the name, once the identifier is resolved. -/
  resolved : Option Nat
  span : Span
  deriving DecidableEq, Repr

/-- The position that the lexer gives to a token of a kind. -/
def Kind.lexerPosition (k : Kind) : Int := if k.isIdentifier then -2 else -1

namespace Token

/-- An unresolved token at the lexer's own position, outside any file. -/
def plain (kind : Kind) (lexeme : String) (line : Nat) : Token :=
  { kind, lexeme, line, position := kind.lexerPosition, resolved := none, span := .nowhere }

def isIdentifier (t : Token) : Bool := t.kind.isIdentifier

def resolve (t : Token) (address : Nat) : Token := { t with resolved := some address }

/-- The index that the token table shows: the address of a resolved token, read as a signed word
of 64 bits, and otherwise the lexer's position. -/
def tableIndex (t : Token) : Int :=
  match t.resolved with
  | some address => (Int64.ofNat address).toInt
  | none => t.position

@[simp] theorem kind_resolve (t : Token) (a : Nat) : (t.resolve a).kind = t.kind := rfl

@[simp] theorem lexeme_resolve (t : Token) (a : Nat) : (t.resolve a).lexeme = t.lexeme := rfl

@[simp] theorem line_resolve (t : Token) (a : Nat) : (t.resolve a).line = t.line := rfl

@[simp] theorem position_resolve (t : Token) (a : Nat) : (t.resolve a).position = t.position := rfl

@[simp] theorem span_resolve (t : Token) (a : Nat) : (t.resolve a).span = t.span := rfl

@[simp] theorem resolved_resolve (t : Token) (a : Nat) : (t.resolve a).resolved = some a := rfl

theorem tableIndex_resolve (t : Token) {a : Nat} (h : a ≤ Int64.maxValue.toInt) :
    (t.resolve a).tableIndex = a := by
  rw [Int64.toInt_maxValue] at h
  exact Int64.toInt_ofNat_of_lt (by omega)

end Token

end Pseudocode
