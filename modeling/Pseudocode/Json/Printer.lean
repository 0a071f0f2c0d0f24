/-
  Pseudocode.Json.Printer — JSON text of a value.

  A layout says what stands before an item, before a closing bracket and after a member's name:
  nothing but the colon in the compact layout; a line of its own, indented by two spaces for each
  enclosing bracket, and a space after the colon in the pretty one. An empty array or object is
  written without a gap in both.

  Strings escape the quote, the backslash and the characters below U+0020, five of them by a
  letter and the others by four hexadecimal digits. Every other character stands for itself.
-/

import Pseudocode.Json.Value

namespace Pseudocode.Json

/-- How much space is put between the parts of a value. -/
inductive Layout where
  | compact
  | pretty
  deriving DecidableEq, Repr

/-- What starts an item, or a closing bracket, at nesting `depth`. -/
def Layout.gap : Layout → Nat → List Char
  | .compact, _ => []
  | .pretty, depth => '\n' :: List.replicate (2 * depth) ' '

/-- What stands between a member's name and its value. -/
def Layout.colon : Layout → List Char
  | .compact => [':']
  | .pretty => [':', ' ']

/-- The written form of one character of a string. -/
def escapeChar (c : Char) : List Char :=
  match c with
  | '"' => ['\\', '"']
  | '\\' => ['\\', '\\']
  | '\x08' => ['\\', 'b']
  | '\x0c' => ['\\', 'f']
  | '\n' => ['\\', 'n']
  | '\r' => ['\\', 'r']
  | '\t' => ['\\', 't']
  | _ =>
    if c.toNat < 0x20 then
      ['\\', 'u', '0', '0', Nat.digitChar (c.toNat / 16), Nat.digitChar (c.toNat % 16)]
    else [c]

/-- A string between quotes. -/
def quote (s : List Char) : List Char := '"' :: s.flatMap escapeChar ++ ['"']

mutual

/-- The text of a value that stands at nesting `depth`. -/
def print (layout : Layout) (depth : Nat) : Value → List Char
  | .integer n => (toString n).toList
  | .string s => quote s.toList
  | .array items => '[' :: printItems layout depth items ++ [']']
  | .object members => '\x7b' :: printMembers layout depth members ++ ['\x7d']

/-- What stands between the brackets of an array. -/
def printItems (layout : Layout) (depth : Nat) : List Value → List Char
  | [] => []
  | item :: more =>
    layout.gap (depth + 1) ++ print layout (depth + 1) item ++ printMoreItems layout depth more

/-- The items after the first, up to the closing bracket. -/
def printMoreItems (layout : Layout) (depth : Nat) : List Value → List Char
  | [] => layout.gap depth
  | item :: more =>
    ',' :: layout.gap (depth + 1) ++ print layout (depth + 1) item ++
      printMoreItems layout depth more

/-- What stands between the brackets of an object. -/
def printMembers (layout : Layout) (depth : Nat) : List (String × Value) → List Char
  | [] => []
  | (name, value) :: more =>
    layout.gap (depth + 1) ++ quote name.toList ++ layout.colon ++
      print layout (depth + 1) value ++ printMoreMembers layout depth more

/-- The members after the first, up to the closing bracket. -/
def printMoreMembers (layout : Layout) (depth : Nat) : List (String × Value) → List Char
  | [] => layout.gap depth
  | (name, value) :: more =>
    ',' :: layout.gap (depth + 1) ++ quote name.toList ++ layout.colon ++
      print layout (depth + 1) value ++ printMoreMembers layout depth more

end

/-- The text of a value in a layout. -/
def Value.text (layout : Layout) (v : Value) : String := String.ofList (print layout 0 v)

end Pseudocode.Json
