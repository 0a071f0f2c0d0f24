/-
  Pseudocode.Proofs.Stream.Records — what a record says.

  A record is read in three steps: its line is cut into fields, the fields are told apart as
  columns, and each column is judged on its own. What comes out as a lexeme is a comma, which no
  field holds, or a field that is not empty: `Recordable` says what that leaves.

  Proved:
  (1) A field is trimmed and has no comma (`mem_fields`), and pieces that are joined by commas are
      the fields again (`fields_intercalate`).
  (2) Which columns fields are (`columns_eq_ok_iff`), and when four columns make a token, and which
      (`token_eq_ok_iff`).
  (3) A lexeme that is read is recordable (`recordable_of_parse`).
-/

import Pseudocode.Stream.Record
import Mathlib.Data.List.Basic

namespace Pseudocode

open Text

/-! ## Fields -/

theorem mem_splitOn {α : Type} [DecidableEq α] {x : α} {l piece : List α}
    (h : piece ∈ l.splitOn x) : x ∉ piece ∧ ∀ a ∈ piece, a ∈ l := by
  induction l generalizing piece with
  | nil =>
    rw [List.splitOn_nil, List.mem_singleton] at h
    rw [h]
    simp
  | cons a l ih =>
    rw [List.splitOn_cons_eq_if_modifyHead] at h
    obtain ⟨first, rest, split⟩ := List.exists_cons_of_ne_nil (List.splitOn_ne_nil x l)
    rw [split] at h ih
    split at h
    · rcases List.mem_cons.1 h with rfl | h
      · simp
      · obtain ⟨notIn, within⟩ := ih h
        exact ⟨notIn, fun b hb => List.mem_cons_of_mem a (within b hb)⟩
    · rename_i ne
      rcases List.mem_cons.1 h with rfl | h
      · obtain ⟨notIn, within⟩ := ih List.mem_cons_self
        refine ⟨?_, ?_⟩
        · intro hx
          rcases List.mem_cons.1 hx with rfl | hx
          · simp at ne
          · exact notIn hx
        · intro b hb
          rcases List.mem_cons.1 hb with rfl | hb
          · exact List.mem_cons_self
          · exact List.mem_cons_of_mem a (within b hb)
      · obtain ⟨notIn, within⟩ := ih (List.mem_cons_of_mem first h)
        exact ⟨notIn, fun b hb => List.mem_cons_of_mem a (within b hb)⟩

namespace Record

/-- Pieces that are joined by commas are the fields, once trimmed, when the last is not empty. -/
theorem fields_intercalate {pieces : List (List Char)} {last : List Char}
    (free : ∀ piece ∈ pieces, ',' ∉ piece) (final : pieces.getLast? = some last)
    (filled : last ≠ []) : fields ([','].intercalate pieces) = pieces.map trim := by
  have ne : pieces ≠ [] := by
    intro e
    rw [e] at final
    cases final
  have kept : dropEndWhile List.isEmpty pieces = pieces := by
    apply dropEndWhile_eq_self
    intro piece mem
    rw [Option.mem_def, final] at mem
    cases mem
    rwa [List.isEmpty_eq_false_iff]
  rw [fields, List.splitOn_intercalate ',' free ne, kept]

/-- A field is trimmed, has no comma, and is made of characters of its line. -/
theorem mem_fields {line field : List Char} (h : field ∈ fields line) :
    Trimmed field ∧ ',' ∉ field ∧ ∀ c ∈ field, c ∈ line := by
  obtain ⟨piece, mem, rfl⟩ := List.mem_map.1 h
  obtain ⟨rest, split, -⟩ := exists_dropEndWhile_append List.isEmpty (line.splitOn ',')
  have : piece ∈ line.splitOn ',' := by
    rw [split]
    exact List.mem_append_left rest mem
  obtain ⟨notIn, within⟩ := mem_splitOn this
  exact ⟨trimmed_trim piece, fun hc => notIn (mem_of_mem_trim hc),
    fun c hc => within c (mem_of_mem_trim hc)⟩

/-! ## Columns -/

/-- The lexeme, the position and the line that are taken from the fields behind a code: the first
three, or, where the first is empty, a comma and the third and the fourth. -/
inductive Takes : List (List Char) → List Char → List Char → List Char → Prop
  | field {lexeme position line : List Char} {rest : List (List Char)} (filled : lexeme ≠ []) :
      Takes (lexeme :: position :: line :: rest) lexeme position line
  | comma {second position line : List Char} {rest : List (List Char)} :
      Takes ([] :: second :: position :: line :: rest) [','] position line

/-- Fields are columns when there are enough of them behind the code. -/
theorem columns_eq_ok_iff {fs : List (List Char)} {c : Columns} :
    columns fs = .ok c ↔
      ∃ behind, fs = c.code :: behind ∧ Takes behind c.lexeme c.position c.line := by
  constructor
  · intro h
    unfold columns at h
    split at h
    · cases h
      exact ⟨_, rfl, .comma⟩
    · cases h
    · rename_i code lexeme position line more _ filled
      cases h
      exact ⟨_, rfl, .field filled⟩
    · cases h
  · intro ⟨behind, split, takes⟩
    obtain ⟨code, lexeme, position, line⟩ := c
    simp only at split takes
    rw [split]
    cases takes with
    | field filled =>
      cases lexeme with
      | nil => exact absurd rfl filled
      | cons first more => rfl
    | comma => rfl

/-- The second column is a comma, or a field that is not empty. -/
theorem lexeme_of_columns {fs : List (List Char)} {c : Columns} (h : columns fs = .ok c) :
    c.lexeme = [','] ∨ c.lexeme ≠ [] ∧ c.lexeme ∈ fs := by
  obtain ⟨behind, rfl, takes⟩ := columns_eq_ok_iff.1 h
  obtain ⟨code, lexeme, position, line⟩ := c
  cases takes with
  | field filled => exact .inr ⟨filled, List.mem_cons_of_mem _ List.mem_cons_self⟩
  | comma => exact .inl rfl

/-- What each column must be, and the token that they make. -/
theorem token_eq_ok_iff {span : Span} {c : Columns} {t : Token} :
    token span c = .ok t ↔
      intWithin? Int32.minValue.toInt Int32.maxValue.toInt c.code = some t.kind.code ∧
      intWithin? Int64.minValue.toInt Int64.maxValue.toInt c.position = some t.position ∧
      natBelow? UInt64.size c.line = some t.line ∧
      t.lexeme = String.ofList c.lexeme ∧ t.resolved = none ∧ t.span = span := by
  constructor
  · intro h
    unfold token at h
    split at h
    · cases h
    rename_i code hcode
    split at h
    · cases h
    rename_i kind hkind
    split at h
    · cases h
    rename_i position hposition
    split at h
    · cases h
    rename_i line hline
    cases h
    exact ⟨Kind.ofCode?_eq_some_iff.1 hkind ▸ hcode, hposition, hline, rfl, rfl, rfl⟩
  · rintro ⟨hcode, hposition, hline, hlexeme, hresolved, hspan⟩
    unfold token
    rw [hcode]
    simp only [Kind.ofCode?_code, hposition, hline, ← hlexeme, ← hresolved, ← hspan]

theorem parse_eq_ok_iff {span : Span} {line : List Char} {t : Token} :
    parse span line = .ok t ↔
      ∃ c, columns (fields line) = .ok c ∧ token span c = .ok t := by
  unfold parse
  cases columns (fields line) with
  | error cause => exact ⟨fun h => (nomatch h), fun ⟨c, h, _⟩ => (nomatch h)⟩
  | ok c =>
    constructor
    · intro h
      exact ⟨c, rfl, h⟩
    · rintro ⟨c', e, h⟩
      cases e
      exact h

/-- A token that is read has the span of its record and is not resolved. -/
theorem span_of_parse {span : Span} {line : List Char} {t : Token}
    (h : parse span line = .ok t) : t.span = span ∧ t.resolved = none := by
  obtain ⟨c, -, made⟩ := parse_eq_ok_iff.1 h
  obtain ⟨-, -, -, -, resolved, span⟩ := token_eq_ok_iff.1 made
  exact ⟨span, resolved⟩

end Record

/-! ## Lexemes of records -/

/-- What the second column of a record on a line can hold: a comma, or a text without commas and
newlines that neither is empty nor has a blank at an end. -/
def Recordable (lexeme : List Char) : Prop :=
  lexeme = [','] ∨ (lexeme ≠ [] ∧ ',' ∉ lexeme ∧ '\n' ∉ lexeme ∧ Trimmed lexeme)

theorem newline_not_mem_of_recordable {lexeme : List Char} (h : Recordable lexeme) :
    '\n' ∉ lexeme := by
  rcases h with rfl | ⟨-, -, free, -⟩
  · decide
  · exact free

theorem recordable_of_parse {span : Span} {line : List Char} {t : Token}
    (h : Record.parse span line = .ok t) (notIn : '\n' ∉ line) : Recordable t.lexeme.toList := by
  obtain ⟨c, cut, made⟩ := Record.parse_eq_ok_iff.1 h
  obtain ⟨-, -, -, lexeme, -⟩ := Record.token_eq_ok_iff.1 made
  rw [lexeme, String.toList_ofList]
  rcases Record.lexeme_of_columns cut with comma | ⟨ne, mem⟩
  · exact .inl comma
  · obtain ⟨trimmed, free, within⟩ := Record.mem_fields mem
    exact .inr ⟨ne, free, fun hc => notIn (within _ hc), trimmed⟩

end Pseudocode
