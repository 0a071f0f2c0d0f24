/-
  Pseudocode.Proofs.Output.Collision — the comma as data and as delimiter.

  Nothing is escaped in a row of the token table, so every comma in a lexeme parts fields, too. The
  reader has no way to tell: behind the code it takes what it finds. A lexeme is the whole field it
  stands in when it has no comma, and a lone comma is known by the empty field that it leaves. Of
  any other lexeme with a comma only the text in front of the first one is taken for the lexeme,
  and the next fields for the position and the line, whether the lexeme made them or the token.
  Where they happen to be numbers, the row is read, but as another token.

  Proved:
  (1) The fields of a row (`fields_row`).
  (2) Which token a row is read as (`parse_row_eq_ok_iff`).
  (3) A row is read as its own token when no comma collides, and otherwise as a token with another
      lexeme, if at all (`parse_row_of_legible`).
  (4) The string `a,5,7` on line 3 is read as the string `a` on line 7 (`numberString_misread`).
-/

import Pseudocode.Proofs.Output.Reread

namespace Pseudocode

open Text

/-! ## The fields of a row -/

/-- What the row of a token shows behind its code: the pieces of the lexeme between its commas, the
index and the line. -/
def Token.shownFields (t : Token) : List (List Char) :=
  (t.lexeme.toList.splitOn ',').map trim ++
    [(toString t.tableIndex).toList, (toString t.line).toList]

/-- The row of a token is cut into its code and the fields that it shows. -/
theorem fields_row (t : Token) :
    Record.fields t.row.toList = (toString t.kind.code).toList :: t.shownFields := by
  rw [toList_tokenRow, fields_joined (numeralText_toString_int _) (numeralText_toString_int _)
    (numeralText_toString _), Token.shownFields]

/-! ## What a row is read as -/

/-- `u` has the kind of `t`, and its lexeme and its numbers are taken from the fields that `t` shows
behind its code. -/
structure Token.ReadsAs (t u : Token) (span : Span) : Prop where
  kind_eq : u.kind = t.kind
  unresolved : u.resolved = none
  span_eq : u.span = span
  columns : ∃ position line, Record.Takes t.shownFields u.lexeme.toList position line ∧
    intWithin? Int64.minValue.toInt Int64.maxValue.toInt position = some u.position ∧
    natBelow? UInt64.size line = some u.line

theorem parse_row_eq_ok_iff {t u : Token} {span : Span} :
    Record.parse span t.row.toList = .ok u ↔ t.ReadsAs u span := by
  obtain ⟨low, high⟩ := t.kind.bounds_code
  have code := intWithin?_toString low high
  rw [Record.parse_eq_ok_iff]
  constructor
  · intro ⟨c, cut, made⟩
    obtain ⟨behind, split, takes⟩ := Record.columns_eq_ok_iff.1 cut
    obtain ⟨hcode, hposition, hline, hlexeme, hresolved, hspan⟩ := Record.token_eq_ok_iff.1 made
    rw [fields_row] at split
    obtain ⟨shown, rfl⟩ := List.cons.inj split
    rw [← shown, code] at hcode
    refine ⟨?_, hresolved, hspan, c.position, c.line, ?_, hposition, hline⟩
    · -- a kind is told by its code
      exact Option.some.inj ((Kind.ofCode?_code u.kind).symm.trans
        (Option.some.inj hcode ▸ Kind.ofCode?_code t.kind))
    · rw [hlexeme, String.toList_ofList]
      exact takes
  · intro ⟨hkind, hresolved, hspan, ⟨position, line, takes, hposition, hline⟩⟩
    refine ⟨⟨(toString t.kind.code).toList, u.lexeme.toList, position, line⟩, ?_, ?_⟩
    · exact Record.columns_eq_ok_iff.2 ⟨_, fields_row t, takes⟩
    · exact Record.token_eq_ok_iff.2 ⟨hkind ▸ code, hposition, hline, String.ofList_toList.symm,
        hresolved, hspan⟩

/-- A token whose lexeme stands on a line and neither is empty nor has a blank at an end, and whose
numbers fit their columns. -/
structure Token.Legible (t : Token) : Prop where
  filled : t.lexeme.toList ≠ []
  trimmed : Trimmed t.lexeme.toList
  oneLine : '\n' ∉ t.lexeme.toList
  line : t.line < UInt64.size
  low : Int64.minValue.toInt ≤ t.tableIndex
  high : t.tableIndex ≤ Int64.maxValue.toInt

/-- A lexeme has a comma among other characters. -/
def Token.Collides (t : Token) : Prop := ',' ∈ t.lexeme.toList ∧ t.lexeme ≠ ","

theorem Token.Legible.recordable_iff {t : Token} (h : t.Legible) :
    Recordable t.lexeme.toList ↔ ¬ t.Collides := by
  have lone : t.lexeme.toList = [','] ↔ t.lexeme = "," := by
    rw [← String.toList_inj]
    rfl
  rw [Recordable, lone, Token.Collides]
  constructor
  · intro recordable ⟨mem, other⟩
    rcases recordable with comma | ⟨-, free, -⟩
    · exact other comma
    · exact free mem
  · intro apart
    by_cases comma : t.lexeme = ","
    · exact .inl comma
    · exact .inr ⟨h.filled, fun mem => apart ⟨mem, comma⟩, h.oneLine, h.trimmed⟩

theorem exists_cons_cons_append_pair {α : Type} (front : List α) (x y : α) :
    ∃ a b rest, front ++ [x, y] = a :: b :: rest := by
  match front with
  | [] => exact ⟨x, y, [], rfl⟩
  | [a] => exact ⟨a, x, [y], rfl⟩
  | a :: b :: front => exact ⟨a, b, front ++ [x, y], rfl⟩

/-- The row of a legible token has as many fields as a record needs. -/
theorem Token.Legible.exists_takes {t : Token} (h : t.Legible) :
    ∃ lexeme position line, Record.Takes t.shownFields lexeme position line := by
  obtain ⟨first, more, split⟩ :=
    List.exists_cons_of_ne_nil (List.splitOn_ne_nil ',' t.lexeme.toList)
  rw [Token.shownFields, split, List.map_cons, List.cons_append]
  by_cases filled : trim first = []
  · cases more with
    | nil =>
      -- the only piece is the lexeme itself
      have whole : t.lexeme.toList = [','].intercalate [first] := by
        rw [← split, List.intercalate_splitOn]
      rw [List.intercalate_singleton] at whole
      rw [← whole, trim_eq_self_iff.2 h.trimmed] at filled
      exact absurd filled h.filled
    | cons second more =>
      obtain ⟨position, line, rest, behind⟩ := exists_cons_cons_append_pair (more.map trim)
        (toString t.tableIndex).toList (toString t.line).toList
      rw [filled, List.map_cons, List.cons_append, behind]
      exact ⟨[','], position, line, .comma⟩
  · obtain ⟨position, line, rest, behind⟩ := exists_cons_cons_append_pair (more.map trim)
      (toString t.tableIndex).toList (toString t.line).toList
    rw [behind]
    exact ⟨trim first, position, line, .field filled⟩

/-- What becomes of the row of a legible token. It has all its columns, so it is read when the two
for numbers are numbers. Without a collision it is read as that token, with its index for a
position. With one, the token that it is read as, if any, has another lexeme: the text in front of
the first comma, or a comma, and the two fields behind it for numbers. -/
theorem parse_row_of_legible {t : Token} (h : t.Legible) (span : Span) :
    (∃ lexeme position line, Record.Takes t.shownFields lexeme position line) ∧
    (∀ u, Record.parse span t.row.toList = .ok u ↔ t.ReadsAs u span) ∧
    (¬ t.Collides → Record.parse span t.row.toList = .ok (t.reread span)) ∧
    (t.Collides → ∀ u, Record.parse span t.row.toList = .ok u → u.lexeme ≠ t.lexeme) := by
  refine ⟨h.exists_takes, fun u => parse_row_eq_ok_iff, ?_, ?_⟩
  · intro apart
    exact parse_row ⟨h.recordable_iff.2 apart, h.line, h.low, h.high⟩ span
  · intro collides u read same
    have oneLine : '\n' ∉ t.row.toList := by
      rw [toList_tokenRow]
      exact newline_not_mem_joined (numeralText_toString_int _) (numeralText_toString_int _)
        (numeralText_toString _) h.oneLine
    have recordable := recordable_of_parse read oneLine
    rw [same, h.recordable_iff] at recordable
    exact recordable collides

/-- A string that begins with a comma. -/
def tailString : Token := .plain .stringConst ",x" 3

/-- A string with two numbers behind commas. -/
def numberString : Token := .plain .stringConst "a,5,7" 3

/-- The comma at the front of a lexeme is taken for all of it; what follows is passed over. -/
theorem parse_row_tailString :
    tailString.Legible ∧ tailString.Collides ∧
      Record.parse .nowhere tailString.row.toList =
        .ok ⟨.stringConst, ",", 3, -1, none, .nowhere⟩ ∧
      "," ≠ tailString.lexeme := by
  have legible : tailString.Legible :=
    ⟨by decide, trim_eq_self_iff.1 (by decide), by decide, by decide, by decide, by decide⟩
  have collides : tailString.Collides := ⟨by decide, by decide⟩
  have shown : tailString.shownFields = [[], ['x'], ['-', '1'], ['3']] := by decide
  obtain ⟨-, reads, -, other⟩ := parse_row_of_legible legible .nowhere
  have read := (reads ⟨.stringConst, ",", 3, -1, none, .nowhere⟩).2
    ⟨rfl, rfl, rfl, ⟨['-', '1'], ['3'], shown ▸ .comma, by decide, by decide⟩⟩
  exact ⟨legible, collides, read, other collides _ read⟩

/-- A string is read as another one, on another line. -/
theorem numberString_misread :
    numberString.Legible ∧
      Record.parse .nowhere numberString.row.toList =
        .ok ⟨.stringConst, "a", 7, 5, none, .nowhere⟩ ∧
      numberString.reread .nowhere = ⟨.stringConst, "a,5,7", 3, -1, none, .nowhere⟩ := by
  refine ⟨⟨by decide, trim_eq_self_iff.1 (by decide), by decide, by decide, by decide, by decide⟩,
    ?_, rfl⟩
  decide +kernel

end Pseudocode
