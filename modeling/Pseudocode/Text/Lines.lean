/-
  Pseudocode.Text.Lines — the lines of a text and the bytes they take.

  `rawLines` cuts a text after every newline, so that the pieces joined give the text back. Offsets
  count bytes of the UTF-8 form.

  - `flatten_rawLines`: nothing is lost or added.
  - `byteLength_append`: lengths add up.
-/

import Pseudocode.Text.Blank

namespace Pseudocode.Text

/-- Bytes that a text takes in UTF-8. -/
def byteLength : List Char → Nat
  | [] => 0
  | c :: rest => c.utf8Size + byteLength rest

/-- The pieces of a text, each cut after its newline; the last one may have none. -/
def rawLines : List Char → List (List Char)
  | [] => []
  | c :: rest =>
    if c = '\n' then [c] :: rawLines rest
    else
      match rawLines rest with
      | [] => [[c]]
      | line :: more => (c :: line) :: more

/-- Characters that end a line. -/
def isLineEnd (c : Char) : Bool := c = '\r' || c = '\n'

/-- A line without the characters that end it. -/
def withoutEnd (line : List Char) : List Char := dropEndWhile isLineEnd line

@[simp] theorem byteLength_nil : byteLength [] = 0 := rfl

@[simp] theorem byteLength_cons (c : Char) (cs : List Char) :
    byteLength (c :: cs) = c.utf8Size + byteLength cs := rfl

@[simp] theorem byteLength_append (a b : List Char) :
    byteLength (a ++ b) = byteLength a + byteLength b := by
  induction a with
  | nil => simp
  | cons c rest ih => simp [ih, Nat.add_assoc]

theorem rawLines_eq_nil_iff {cs : List Char} : rawLines cs = [] ↔ cs = [] := by
  cases cs with
  | nil => simp [rawLines]
  | cons c rest =>
    rw [rawLines]
    split
    · simp
    · split <;> simp

theorem flatten_rawLines (cs : List Char) : (rawLines cs).flatten = cs := by
  induction cs with
  | nil => rfl
  | cons c rest ih =>
    rw [rawLines]
    split
    · simp [ih]
    · split
      · rename_i h
        rw [rawLines_eq_nil_iff] at h
        simp [h]
      · rename_i line more h
        rw [h] at ih
        simpa using ih

end Pseudocode.Text
