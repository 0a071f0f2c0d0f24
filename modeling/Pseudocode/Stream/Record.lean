/-
  Pseudocode.Stream.Record — one line of a record file.

  A record is `code, lexeme, position, line`. The comma parts the fields and is itself a lexeme:
  the record of a comma token has an empty second field, and its position and line stand one
  field later. Fields are trimmed; empty fields at the end of a record do not count, unless there
  are blanks in them.

  - `fields` gives the fields of a line.
  - `columns` finds the four columns among them, or says why there are none.
  - `parse` reads the columns: the code must fit 32 bits and name a kind, the position must fit 64
    bits with a sign, the line number 64 bits without one.
-/

import Pseudocode.Stream.Token
import Pseudocode.Text.Blank
import Pseudocode.Text.Numeral

namespace Pseudocode

open Text

/-- What is wrong with a record. -/
inductive RecordFault where
  | emptyLexeme (fields : Nat)
  | tooFewFields (found : Nat)
  | badCode (text : String)
  | unknownCode (code : Int)
  | badPosition (text : String)
  | badLine (text : String)
  deriving DecidableEq, Repr

def RecordFault.message : RecordFault → String
  | .emptyLexeme n => s!"empty lexeme in a {n}-field record"
  | .tooFewFields n => s!"expected 4 fields, found {n}"
  | .badCode text => s!"invalid token code '{text}'"
  | .unknownCode n => s!"unknown token code {n}"
  | .badPosition text => s!"invalid table position '{text}'"
  | .badLine text => s!"invalid line number '{text}'"

namespace Record

/-- The trimmed fields of a line, without the empty ones at its end. -/
def fields (line : List Char) : List (List Char) :=
  (dropEndWhile List.isEmpty (line.splitOn ',')).map trim

/-- The four columns of a record. -/
structure Columns where
  code : List Char
  lexeme : List Char
  position : List Char
  line : List Char
  deriving DecidableEq, Repr

/-- The columns of a record; an empty second field stands for a comma and takes two fields. -/
def columns : List (List Char) → Except RecordFault Columns
  | code :: [] :: _ :: position :: line :: _ => .ok ⟨code, [','], position, line⟩
  | _ :: [] :: rest => .error (.emptyLexeme (rest.length + 2))
  | code :: lexeme :: position :: line :: _ => .ok ⟨code, lexeme, position, line⟩
  | fields => .error (.tooFewFields fields.length)

/-- The token that four columns describe. -/
def token (span : Span) (c : Columns) : Except RecordFault Token :=
  match intWithin? Int32.minValue.toInt Int32.maxValue.toInt c.code with
  | none => .error (.badCode (String.ofList c.code))
  | some code =>
    match Kind.ofCode? code with
    | none => .error (.unknownCode code)
    | some kind =>
      match intWithin? Int64.minValue.toInt Int64.maxValue.toInt c.position with
      | none => .error (.badPosition (String.ofList c.position))
      | some position =>
        match natBelow? UInt64.size c.line with
        | none => .error (.badLine (String.ofList c.line))
        | some line =>
          .ok { kind, lexeme := String.ofList c.lexeme, line, position, resolved := none, span }

/-- The token of a record that takes the bytes `span`. -/
def parse (span : Span) (line : List Char) : Except RecordFault Token :=
  columns (fields line) >>= token span

end Record

end Pseudocode
