/-
  Pseudocode.Fault — why a program is refused.

  A fault names the rule that is broken and, when a token broke it, that token. Faults of the
  token stream itself (a record that cannot be read, no body, a look-ahead that finds no end, a
  file that cannot be used) are structural; the others are faults of the program.

  - `Fault.place?_isSome_of_not_isStructural`: a fault that is not structural names a token.
-/

import Pseudocode.Lexicon.Construct
import Pseudocode.Stream.Token

namespace Pseudocode

/-- The token that a fault is about. -/
structure Place where
  lexeme : String
  line : Nat
  span : Span
  deriving DecidableEq, Repr

def Token.place (t : Token) : Place := ⟨t.lexeme, t.line, t.span⟩

/-- Why a program is refused. -/
inductive Fault where
  | malformedRecord (record : Nat) (message : String) (span : Span)
  | missingBody
  | duplicateDeclaration (place : Place)
  | typeMismatch (place : Place) (expected found : String)
  | undeclared (place : Place)
  | invalidAssignment (place : Place) (target reason : String)
  | invalidCondition (place : Place) (construct : Construct)
  | unterminated (place : Place) (terminator : String)
  | io (message : String)
  deriving DecidableEq, Repr

namespace Fault

/-- Name of the broken rule. -/
def rule : Fault → String
  | malformedRecord .. => "malformed-token-record"
  | missingBody => "missing-body-marker"
  | duplicateDeclaration _ => "duplicate-declaration"
  | typeMismatch .. => "type-annotation-mismatch"
  | undeclared _ => "undeclared-identifier"
  | invalidAssignment .. => "invalid-assignment"
  | invalidCondition .. => "invalid-condition"
  | unterminated .. => "unterminated-scan"
  | io _ => "io"

def message : Fault → String
  | malformedRecord record text _ => s!"malformed token record {record}: {text}"
  | missingBody => "token stream has no body-begin marker"
  | duplicateDeclaration p =>
    s!"identifier '{p.lexeme}' on line {p.line} has already been declared"
  | typeMismatch p expected found =>
    s!"identifier '{p.lexeme}' on line {p.line} is declared {expected} but annotated '{found}'"
  | undeclared p => s!"identifier '{p.lexeme}' on line {p.line} has not been declared"
  | invalidAssignment p target reason =>
    s!"invalid assignment to {target} identifier '{p.lexeme}' on line {p.line}: {reason}"
  | invalidCondition p construct =>
    s!"invalid {construct.word} condition at '{p.lexeme}' on line {p.line}: " ++
      "no relational or logical operator"
  | unterminated p terminator =>
    s!"scan for {terminator} from '{p.lexeme}' on line {p.line} ran past the end of the " ++
      "token stream"
  | io text => s!"IO error: {text}"

/-- The token that broke the rule. -/
def place? : Fault → Option Place
  | duplicateDeclaration p => some p
  | typeMismatch p .. => some p
  | undeclared p => some p
  | invalidAssignment p .. => some p
  | invalidCondition p _ => some p
  | unterminated p _ => some p
  | malformedRecord .. => none
  | missingBody => none
  | io _ => none

def line? (f : Fault) : Option Nat := f.place?.map Place.line

def lexeme? (f : Fault) : Option String := f.place?.map Place.lexeme

/-- Bytes of the record at fault. -/
def span? : Fault → Option Span
  | malformedRecord _ _ span => some span
  | f => f.place?.map Place.span

/-- Faults of the token stream, as against faults of the program it holds. -/
def isStructural : Fault → Bool
  | malformedRecord .. => true
  | missingBody => true
  | unterminated .. => true
  | io _ => true
  | _ => false

/-- A fault that is not structural always names a token. -/
theorem place?_isSome_of_not_isStructural {f : Fault} (h : f.isStructural = false) :
    f.place?.isSome = true := by
  cases f <;> simp_all [isStructural, place?]

end Fault

end Pseudocode
