/-
  Pseudocode.Text.Quoted — text between double quotes, with escapes.

  The quoted form shows every character: a quote and a backslash are escaped by a backslash, NUL,
  tab, newline and carriage return by a letter or digit, and any other character that would not
  leave a mark of its own by its code point in hexadecimal, between braces.
-/

import Pseudocode.Text.Printable

namespace Pseudocode.Text

/-- The written form of one character between quotes. -/
def escapeChar (c : Char) : List Char :=
  match c with
  | '\x00' => ['\\', '0']
  | '\t' => ['\\', 't']
  | '\n' => ['\\', 'n']
  | '\r' => ['\\', 'r']
  | '"' => ['\\', '"']
  | '\\' => ['\\', '\\']
  | _ =>
    if isPrintable c then [c]
    else ['\\', 'u', '\x7b'] ++ Nat.toDigits 16 c.toNat ++ ['\x7d']

/-- A text between double quotes. -/
def quoted (s : String) : String :=
  String.ofList ('"' :: s.toList.flatMap escapeChar ++ ['"'])

end Pseudocode.Text
