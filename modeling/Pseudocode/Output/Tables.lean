/-
  Pseudocode.Output.Tables — what an analysis is written as.

  An analysis gives three tables: the symbols, the program names, the stream with its resolved
  identifiers. As text each table is a file of rows; as JSON all three are one document. The files
  of both formats lie in one directory, where a run replaces whatever an earlier run left.
-/

import Pseudocode.Output.Row

namespace Pseudocode

/-- The rows of the three tables. -/
structure Tables where
  symbols : List String
  addresses : List String
  tokens : List String
  deriving DecidableEq, Repr

def Analysis.tables (a : Analysis) : Tables :=
  { symbols := a.symbols.symbols.map Symbol.row
    addresses := a.programs.entries.map AddressEntry.row
    tokens := a.tokens.map Token.row }

/-- The three tables as one JSON value. -/
def Analysis.json (a : Analysis) : Json.Value :=
  .object
    [("symbols", .array (a.symbols.symbols.map Symbol.json)),
     ("addresses", .array (a.programs.entries.map AddressEntry.json)),
     ("tokens", .array (a.tokens.map Token.json))]

/-- The text of the JSON document. -/
def Analysis.document (a : Analysis) : String := a.json.text .pretty

/-- How tables are written. -/
inductive Format where
  /-- A file of rows for each table. -/
  | text
  /-- One JSON document. -/
  | json
  deriving DecidableEq, Repr

def symbolFile : String := "symbolTable.txt"

def addressFile : String := "addressesTable.txt"

def tokenFile : String := "tokensTable.txt"

def documentFile : String := "tables.json"

/-- Every file name that a format uses, in the order in which old files are removed. -/
def tableFiles : List String := [symbolFile, addressFile, tokenFile, documentFile]

/-- The table files of text form, with their names, in the order of writing. -/
def Tables.files (t : Tables) : List (String × String) :=
  [(symbolFile, renderRows t.symbols), (addressFile, renderRows t.addresses),
   (tokenFile, renderRows t.tokens)]

/-- The files that a format consists of, in the order of writing. -/
def Analysis.files (a : Analysis) : Format → List (String × String)
  | .text => a.tables.files
  | .json => [(documentFile, a.document)]

theorem mem_tableFiles_of_mem_files {a : Analysis} {format : Format} {file : String × String}
    (h : file ∈ a.files format) : file.1 ∈ tableFiles := by
  cases format with
  | text =>
    simp only [Analysis.files, Tables.files, List.mem_cons, List.not_mem_nil, or_false] at h
    rcases h with rfl | rfl | rfl <;> simp [tableFiles]
  | json =>
    simp only [Analysis.files, List.mem_cons, List.not_mem_nil, or_false] at h
    subst h
    simp [tableFiles]

end Pseudocode
