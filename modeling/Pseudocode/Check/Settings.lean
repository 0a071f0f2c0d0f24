/-
  Pseudocode.Check.Settings — what a user chooses about an analysis.

  The dialect gives the words that end a declaration. The assignment scan says which tokens an
  assignment is judged by: its own right-hand side, or the first statement of the whole stream.
  The default scope holds variables declared before any program name.

  - `Dialect.typeName_injective`: within a dialect a word names one type.
-/

import Pseudocode.Lexicon.Kind

namespace Pseudocode

/-- Language of the type names. -/
inductive Dialect where
  | english
  | spanish
  deriving DecidableEq, Repr

/-- The word that a declaration of a type ends with. -/
def Dialect.typeName : Dialect → ValueType → String
  | .english, .int => "int"
  | .english, .real => "real"
  | .english, .string => "string"
  | .english, .boolean => "boolean"
  | .spanish, .int => "entero"
  | .spanish, .real => "real"
  | .spanish, .string => "cadena"
  | .spanish, .boolean => "logico"

theorem Dialect.typeName_injective {d : Dialect} {s t : ValueType}
    (h : d.typeName s = d.typeName t) : s = t := by
  revert h
  cases d <;> cases s <;> cases t <;> decide

/-- Which tokens an assignment is judged by. -/
inductive AssignmentScan where
  /-- Its own right-hand side, up to the semicolon. -/
  | statement
  /-- The first statement of the stream, typed by the first token of the stream. -/
  | leading
  deriving DecidableEq, Repr

structure Settings where
  dialect : Dialect := .english
  scan : AssignmentScan := .statement
  /-- Scope of variables declared before any program name. -/
  defaultScope : String := "Main"
  deriving DecidableEq, Repr

end Pseudocode
