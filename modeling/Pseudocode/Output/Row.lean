/-
  Pseudocode.Output.Row — the lines of the three tables.

  A row joins its fields with a comma and a space; kinds are written as their codes. Nothing is
  escaped. A table's text has one row to a line. The JSON form of an entry has the same fields
  under names, and the symbols also show their addresses.
-/

import Pseudocode.Check.Analysis
import Pseudocode.Json.Printer

namespace Pseudocode

/-- Fields of one line. -/
def row (fields : List String) : String := ", ".intercalate fields

def Symbol.row (s : Symbol) : String :=
  Pseudocode.row [toString s.kind.code, s.lexeme, s.value, s.scope]

def AddressEntry.row (e : AddressEntry) : String :=
  Pseudocode.row [toString e.kind.code, e.lexeme, toString e.line, toString e.vci]

def Token.row (t : Token) : String :=
  Pseudocode.row [toString t.kind.code, t.lexeme, toString t.tableIndex, toString t.line]

/-- The text of a table: every row on a line of its own. -/
def renderRows (rows : List String) : String :=
  String.join (rows.map (· ++ "\n"))

/-! ## The same as JSON -/

open Json in
def Symbol.json (s : Symbol) : Value :=
  .object
    [("kind", .integer s.kind.code), ("lexeme", .string s.lexeme), ("value", .string s.value),
     ("scope", .string s.scope), ("address", .integer s.address)]

open Json in
def AddressEntry.json (e : AddressEntry) : Value :=
  .object
    [("kind", .integer e.kind.code), ("lexeme", .string e.lexeme), ("line", .integer e.line),
     ("vci", .integer e.vci)]

open Json in
def Token.json (t : Token) : Value :=
  .object
    [("kind", .integer t.kind.code), ("lexeme", .string t.lexeme),
     ("index", .integer t.tableIndex), ("line", .integer t.line)]

theorem toList_row (fields : List String) :
    (row fields).toList = [',', ' '].intercalate (fields.map String.toList) := by
  simp [row, String.toList_intercalate]

end Pseudocode
