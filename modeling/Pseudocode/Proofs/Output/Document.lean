/-
  Pseudocode.Proofs.Output.Document — the JSON document shows the rows.

  The tables are written by two programs: as rows, where nothing is escaped, and as one JSON
  document, where strings are. A reader of the document who knows the grammar of JSON and the names
  of the columns gets the rows back: for every row there is an object, and the members of the
  columns, joined as a row, are the row. This is so for any lexeme and any scope, with quotes,
  backslashes and newlines. The symbols have a member more than their rows, their address; it is the
  one under which the name is known.

  Proved:
  (1) The object of an entry shows the row of the entry (`row?_datum_symbol`, `row?_datum_address`,
      `row?_datum_token`).
  (2) The document denotes one datum, its arrays show the rows, and a symbol's object carries the
      address of the symbol's name (`document_shows_rows`).
-/

import Pseudocode.Output.Tables
import Pseudocode.Proofs.Check.Verdict
import Pseudocode.Proofs.Json.Reading

namespace Pseudocode

/-! ## Rows of objects -/

namespace Json.Datum

/-- The value of the only member with the given name. -/
def member? (name : String) : Datum → Option Datum
  | .object members =>
    match members.filter (·.1 = name) with
    | [m] => some m.2
    | _ => none
  | _ => none

/-- What a row shows for a datum: a string as it stands, an integer as a numeral. -/
def shown? : Datum → Option String
  | .string s => some s
  | .number q => if q.den = 1 then some (toString q.num) else none
  | _ => none

/-- The row of an object with these columns. -/
def row? (columns : List String) (d : Datum) : Option String :=
  (columns.mapM fun name => (d.member? name).bind shown?).map Pseudocode.row

@[simp] theorem shown?_string (s : String) : shown? (.string s) = some s := rfl

@[simp] theorem shown?_integer (n : Int) : shown? (.number n) = some (toString n) := by
  simp [shown?]

@[simp] theorem shown?_natural (n : Nat) : shown? (.number n) = some (toString n) :=
  shown?_integer n

end Json.Datum

open Json

/-- The object of a symbol shows its row. -/
theorem row?_datum_symbol (s : Symbol) :
    s.json.datum.row? ["kind", "lexeme", "value", "scope"] = some s.row := by
  simp [Symbol.json, Value.datum, memberData, Datum.row?, Datum.member?, Symbol.row]

/-- The object of a program name shows its row. -/
theorem row?_datum_address (e : AddressEntry) :
    e.json.datum.row? ["kind", "lexeme", "line", "vci"] = some e.row := by
  simp [AddressEntry.json, Value.datum, memberData, Datum.row?, Datum.member?, AddressEntry.row]

/-- The object of a token shows its row. -/
theorem row?_datum_token (t : Token) :
    t.json.datum.row? ["kind", "lexeme", "index", "line"] = some t.row := by
  simp [Token.json, Value.datum, memberData, Datum.row?, Datum.member?, Token.row]

/-! ## The document -/

/-- The document of an analysis denotes one datum, an object of three arrays. Each array shows the
rows of its table, in order, when the columns are taken from its objects; and the address of a
symbol is that of its name. -/
theorem document_shows_rows {settings : Settings} {tokens : List Token} {a : Analysis}
    (h : (analyze settings tokens).outcome = .ok a) :
    ∃ symbols addresses stream : List Datum,
      (∀ d, Denotes a.document.toList d ↔
        d = .object [("symbols", .array symbols), ("addresses", .array addresses),
          ("tokens", .array stream)]) ∧
      symbols.map (Datum.row? ["kind", "lexeme", "value", "scope"]) =
        a.tables.symbols.map some ∧
      addresses.map (Datum.row? ["kind", "lexeme", "line", "vci"]) =
        a.tables.addresses.map some ∧
      stream.map (Datum.row? ["kind", "lexeme", "index", "line"]) = a.tables.tokens.map some ∧
      ∀ d ∈ symbols, ∃ (lexeme : String) (address : Nat),
        d.member? "lexeme" = some (.string lexeme) ∧
        d.member? "address" = some (.number address) ∧
        a.symbols.addressOf? lexeme = some address := by
  obtain ⟨m, -, -, made⟩ := outcome_analyze_eq_ok_iff.1 h
  have keeps : SymbolTable.Keeps a.symbols (SymbolTable.accepted (requests settings tokens m)) :=
    made ▸ SymbolTable.keeps_after (requests settings tokens m)
  refine ⟨a.symbols.symbols.map (·.json.datum), a.programs.entries.map (·.json.datum),
    a.tokens.map (·.json.datum), ?_, ?_, ?_, ?_, ?_⟩
  · intro d
    rw [Analysis.document, denotes_text_iff]
    simp only [Analysis.json, Value.datum, memberData, itemData_eq_map, List.map_map,
      Function.comp_def]
  · simp only [Analysis.tables, List.map_map, Function.comp_def, row?_datum_symbol]
  · simp only [Analysis.tables, List.map_map, Function.comp_def, row?_datum_address]
  · simp only [Analysis.tables, List.map_map, Function.comp_def, row?_datum_token]
  · intro d mem
    obtain ⟨s, inTable, rfl⟩ := List.mem_map.1 mem
    refine ⟨s.lexeme, s.address, ?_, ?_, SymbolTable.addressOf?_of_mem_symbols keeps inTable⟩
    · simp [Symbol.json, Value.datum, memberData, Datum.member?]
    · simp [Symbol.json, Value.datum, memberData, Datum.member?]

/-- A variable whose name has characters that JSON escapes. -/
def quotedProgram : List Token :=
  [.plain .intId "a\"\\\n\x01é" 1, .plain .intKw "int" 1, .plain .semicolon ";" 1,
    .plain .beginKw "begin" 2]

/-- The row has the characters as they are, the document has their escapes, and the document is read
as the row. -/
theorem document_of_quotedProgram :
    ∃ a, (analyze { defaultScope := "x, \"y\"" } quotedProgram).outcome = .ok a ∧
      a.tables.symbols = ["-51, a\"\\\n\x01é, 0, x, \"y\""] ∧
      String.ofList (quote "a\"\\\n\x01é".toList) = "\"a\\\"\\\\\\n\\u0001é\"" ∧
      ∃ symbol stream, Denotes a.document.toList
          (.object [("symbols", .array [symbol]), ("addresses", .array []),
            ("tokens", .array stream)]) ∧
        symbol.row? ["kind", "lexeme", "value", "scope"] =
          some "-51, a\"\\\n\x01é, 0, x, \"y\"" := by
  obtain ⟨a, h, row, noProgram⟩ :
      ∃ a, (analyze { defaultScope := "x, \"y\"" } quotedProgram).outcome = .ok a ∧
        a.tables.symbols = ["-51, a\"\\\n\x01é, 0, x, \"y\""] ∧ a.tables.addresses = [] :=
    ⟨_, rfl, by decide +kernel, rfl⟩
  obtain ⟨symbols, addresses, stream, denotes, shown, programs, -⟩ := document_shows_rows h
  rw [row, List.map_singleton] at shown
  rw [noProgram, List.map_nil, List.map_eq_nil_iff] at programs
  obtain ⟨symbol, rfl, shownRow⟩ := List.map_eq_singleton_iff.1 shown
  subst programs
  exact ⟨a, h, row, by decide +kernel, symbol, stream, (denotes _).2 rfl, shownRow⟩

end Pseudocode
