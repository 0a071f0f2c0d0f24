/-
  Pseudocode.Stream.Reader — reading a record file.

  Every line of the file that is not blank holds one record. A token's span is its line without
  the characters that end it; the record number is the number of the line. The first line that
  holds no record ends the reading.
-/

import Pseudocode.Stream.Record
import Pseudocode.Text.Lines
import Pseudocode.Trace

namespace Pseudocode

open Text

/-- The token that a text records, when the text is record `number` of its file and takes the bytes
`span`. -/
def readRecord (number : Nat) (span : Span) (text : List Char) : Except Fault Token :=
  match Record.parse span text with
  | .ok token => .ok token
  | .error fault => .error (.malformedRecord number fault.message span)

/-- A line of a file: its number from 1, the offset of its first byte, its text. -/
structure Line where
  number : Nat
  start : Nat
  text : List Char
  deriving DecidableEq, Repr

namespace Line

/-- Bytes of a line, without those that end it. -/
def span (l : Line) : Span := ⟨l.start, l.start + byteLength l.text⟩

def isBlank (l : Line) : Bool := l.text.all Text.isBlank

/-- Gives each raw line its number and its offset. -/
def place (number start : Nat) : List (List Char) → List Line
  | [] => []
  | raw :: more =>
    ⟨number, start, withoutEnd raw⟩ :: place (number + 1) (start + byteLength raw) more

/-- The lines of a source, in order. -/
def ofSource (source : List Char) : List Line := place 1 0 (rawLines source)

/-- The token that a line records. -/
def token (l : Line) : Except Fault Token := readRecord l.number l.span l.text

end Line

/-- The tokens of a record file. -/
def readTokens (source : String) : Traced (List Token) := do
  let tokens ← .lift (((Line.ofSource source.toList).filter (!·.isBlank)).mapM Line.token)
  .note (.recordsRead tokens.length)
  pure tokens

end Pseudocode
