/-
  Pseudocode.Report.Excerpt — a diagnostic as text.

  A label is shown as an excerpt of its file: where it starts, the line it stands on, and under
  that line a caret for each column of the characters that have a byte inside the span, followed by
  the message. The margin is as wide as the line's number. Notes follow; without a label there is no
  margin.

      error[undeclared-identifier]: Semantic error
        ┌─ tokens.txt:2:1
        │
      2 │ -52, total, -2, 7
        │ ^^^^^^^^^^^^^^^^^ identifier 'total' on line 7 has not been declared
        │
        = program line 7

  A line is found by the newlines of the file: `lineHolding` gives the last line that starts at or
  before a byte. Tabs are shown as spaces up to the next tab stop.
-/

import Pseudocode.Report.Diagnostic
import Pseudocode.Stream.Reader
import Pseudocode.Text.Width

namespace Pseudocode

open Text

/-- A file that diagnostics may point into. -/
structure Source where
  name : String
  text : String
  deriving DecidableEq, Repr

namespace Excerpt

/-- The line that holds the byte `byte`, among the raw lines from number `number` and offset
`start` on; its text keeps its newline. Behind a final newline there is one more, empty line. -/
def lineHolding (byte : Nat) : Nat → Nat → List (List Char) → Line
  | number, start, [] => ⟨number, start, []⟩
  | number, start, raw :: more =>
    if raw.getLast? = some '\n' ∧ start + byteLength raw ≤ byte then
      lineHolding byte (number + 1) (start + byteLength raw) more
    else ⟨number, start, raw⟩

/-- The line of a source that holds a byte. -/
def lineOf (source : String) (byte : Nat) : Line :=
  lineHolding byte 1 0 (rawLines source.toList)

/-- How many characters of a text end within its first `bytes` bytes. -/
def charsWithin (bytes : Nat) : List Char → Nat
  | [] => 0
  | c :: rest => if c.utf8Size ≤ bytes then charsWithin (bytes - c.utf8Size) rest + 1 else 0

/-- Characters at the end of a line that are not shown. -/
def isHiddenEnd (c : Char) : Bool := c = '\n' || c = '\r' || c = '\x00'

/-- A line as it is shown, from column `column` on. -/
def expandTabs : Nat → List Char → List Char
  | _, [] => []
  | column, c :: rest =>
    (if c = '\t' then List.replicate (widthAt column c) ' ' else [c]) ++
      expandTabs (column + widthAt column c) rest

/-- What stands under a column whose character takes the bytes `byte` up to `next`, for a span of
the bytes `first` up to `stop`: a caret where the two share a byte, a space before the span,
nothing behind it. -/
def mark (first stop byte next : Nat) : List Char :=
  if byte < stop then [if first < next then '^' else ' '] else []

/-- The marks under a line, from offset `byte` and column `column` on. One column behind the
text stands for its end, as if a byte were there. -/
def marks (first stop : Nat) : Nat → Nat → List Char → List Char
  | byte, _, [] => mark first stop byte (byte + 1)
  | byte, column, c :: rest =>
    let next := byte + c.utf8Size
    (List.replicate (widthAt column c) (mark first stop byte next)).flatten ++
      marks first stop next (column + widthAt column c) rest

/-- A margin of `width` columns. -/
def margin (width : Nat) : String := String.ofList (List.replicate width ' ')

/-- The lines of a text, without what ends them. -/
def textLines (text : String) : List String :=
  (rawLines text.toList).map fun raw =>
    match raw.reverse with
    | '\n' :: '\r' :: rest => String.ofList rest.reverse
    | '\n' :: rest => String.ofList rest.reverse
    | _ => String.ofList raw

/-- The lines of one note, the first one behind an equals sign. -/
def noteLines (width : Nat) (note : String) : List String :=
  match textLines note with
  | [] => []
  | first :: more =>
    s!"{margin width} = {first}" :: more.map fun line => s!"{margin width}   {line}"

/-- The lines of an excerpt and the width of its margin. -/
def labelLines (source : Source) (label : Label) : Nat × List String :=
  let line := lineOf source.text label.span.start
  let number := toString line.number
  let width := number.length
  let first := label.span.start - line.start
  let stop := max (label.span.stop - line.start) (first + 1)
  let shown := dropEndWhile isHiddenEnd line.text
  let column := charsWithin first line.text + 1
  (width,
    [s!"{margin width} ┌─ {source.name}:{number}:{column}",
     s!"{margin width} │",
     s!"{number} │ {String.ofList (expandTabs 0 shown)}",
     s!"{margin width} │ {String.ofList (marks first stop 0 0 shown)} {label.message}"])

/-- The lines between the title of a diagnostic and its end; none when the label points into a
file that is missing. -/
def bodyLines (sources : List Source) (d : Diagnostic) : Option (List String) :=
  match d.label? with
  | none => some (d.notes.flatMap (noteLines 0))
  | some label => do
    let source ← sources[label.file]?
    let (width, lines) := labelLines source label
    if d.notes.isEmpty then
      pure lines
    else
      pure (lines ++ s!"{margin width} │" :: d.notes.flatMap (noteLines width))

end Excerpt

/-- The text of a diagnostic; it ends with an empty line. -/
def Diagnostic.render (sources : List Source) (d : Diagnostic) : Option String := do
  let lines ← Excerpt.bodyLines sources d
  pure (String.join ((s!"error[{d.code}]: {d.title}" :: lines ++ [""]).map (· ++ "\n")))

/-- The text of a fault's diagnostic; the bare message when its file is missing. -/
def Fault.render (sources : List Source) (file : Nat) (f : Fault) : String :=
  ((f.diagnostic file).render sources).getD f.message

end Pseudocode
