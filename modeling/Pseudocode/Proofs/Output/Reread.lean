/-
  Pseudocode.Proofs.Output.Reread — the token table as a record file.

  A row of the token table has the form of a record: code, lexeme, index, line, joined by a comma
  and a space. The space is trimmed away and the numbers are in range, so what has to be looked at
  is the lexeme. A recordable one is a field by itself, or it is a comma, and then the cuts of the
  row fall beside and into it and the record has the five fields that stand for a comma. The row of
  a token is read as that token, with its index for a position and no address (`Token.reread`).

  Proved:
  (1) A row is cut at its own commas and at those of its lexeme (`fields_joined`). What is written
      of a recordable lexeme is cut into the columns it was made of (`columns_fields_joined`), so
      the row of a `Writable` token is read back (`parse_row`).
  (2) Rows that stand on a line each are the lines of the text they are rendered to
      (`texts_recordLines`), so a table of writable tokens is read back (`readTokens_renderRows`).
  (3) What is read is writable, whatever addresses it is given (`writable_of_parse`,
      `Token.Writable.resolve`), so the token table of a source is read back
      (`tokenTable_reads_back`).
-/

import Pseudocode.Output.Tables
import Pseudocode.Proofs.Stream.Reading
import Pseudocode.Proofs.Stream.Records

namespace Pseudocode

open Text

/-! ## Characters of numerals -/

theorem isBlank_of_isDigit {c : Char} (h : c.isDigit = true) : isBlank c = false := by
  have range : 48 ≤ c.toNat ∧ c.toNat ≤ 57 := by
    simp only [Char.isDigit, Bool.and_eq_true, decide_eq_true_eq, ge_iff_le,
      UInt32.le_iff_toNat_le] at h
    exact h
  simp only [isBlank]
  simp
  omega

/-- Characters that a number is written with: no blank and no comma. -/
structure NumeralText (cs : List Char) : Prop where
  ne : cs ≠ []
  char : ∀ c ∈ cs, c.isDigit = true ∨ c = '-'

theorem numeralText_toString_int (n : Int) : NumeralText (toString n).toList := by
  refine ⟨?_, fun c => isDigit_of_mem_toString_int⟩
  intro e
  have := int?_toString n
  rw [e] at this
  cases this

theorem numeralText_toString (n : Nat) : NumeralText (toString n).toList :=
  numeralText_toString_int (Int.ofNat n)

theorem NumeralText.isBlank_eq_false {cs : List Char} (h : NumeralText cs) {c : Char}
    (mem : c ∈ cs) : isBlank c = false := by
  rcases h.char c mem with digit | rfl
  · exact isBlank_of_isDigit digit
  · decide

theorem NumeralText.trimmed {cs : List Char} (h : NumeralText cs) : Trimmed cs :=
  trimmed_of_forall fun _ mem => h.isBlank_eq_false mem

/-- A number has no character that is neither a digit nor a sign. -/
theorem NumeralText.not_mem {cs : List Char} (h : NumeralText cs) {c : Char}
    (other : c.isDigit = false) (unsigned : c ≠ '-') : c ∉ cs := by
  intro mem
  rcases h.char c mem with digit | rfl
  · rw [other] at digit
    cases digit
  · exact unsigned rfl

theorem NumeralText.newline_not_mem {cs : List Char} (h : NumeralText cs) : '\n' ∉ cs :=
  h.not_mem (by decide) (by decide)

theorem NumeralText.comma_not_mem {cs : List Char} (h : NumeralText cs) : ',' ∉ cs :=
  h.not_mem (by decide) (by decide)

/-! ## The row of a token -/

/-- Four columns, joined as a row. -/
def joined (code lexeme index line : List Char) : List Char :=
  code ++ ',' :: ' ' :: (lexeme ++ ',' :: ' ' :: (index ++ ',' :: ' ' :: line))

theorem toList_row_joined (code lexeme index line : String) :
    (row [code, lexeme, index, line]).toList =
      joined code.toList lexeme.toList index.toList line.toList := by
  rw [toList_row]
  simp only [List.map_cons, List.map_nil, List.intercalate_cons_cons, List.intercalate_singleton,
    joined, List.append_assoc, List.cons_append, List.nil_append]

theorem toList_tokenRow (t : Token) :
    t.row.toList = joined (toString t.kind.code).toList t.lexeme.toList
      (toString t.tableIndex).toList (toString t.line).toList :=
  toList_row_joined _ _ _ _

/-- A row has no newline when none of its columns has one. -/
theorem newline_not_mem_of_columns {code lexeme index line : List Char} (hcode : '\n' ∉ code)
    (hlexeme : '\n' ∉ lexeme) (hindex : '\n' ∉ index) (hline : '\n' ∉ line) :
    '\n' ∉ joined code lexeme index line := by
  simp [joined, hcode, hlexeme, hindex, hline]

theorem not_mem_blank_cons {c : Char} {cs : List Char} (ne : c ≠ ' ') (h : c ∉ cs) :
    c ∉ ' ' :: cs := by
  intro mem
  rcases List.mem_cons.1 mem with e | mem
  · exact ne e
  · exact h mem

theorem intercalate_append {α : Type} {sep : List α} {front back : List (List α)}
    (hfront : front ≠ []) (hback : back ≠ []) :
    sep.intercalate (front ++ back) = sep.intercalate front ++ sep ++ sep.intercalate back := by
  induction front with
  | nil => exact absurd rfl hfront
  | cons piece front ih =>
    cases front with
    | nil => rw [List.singleton_append, List.intercalate_cons_of_ne_nil hback,
        List.intercalate_singleton]
    | cons next front =>
      rw [List.cons_append, List.cons_append, List.intercalate_cons_cons, ← List.cons_append,
        ih (List.cons_ne_nil next front), List.intercalate_cons_cons]
      simp only [List.append_assoc]

/-- A row is its code, the pieces of its lexeme, its index and its line, joined by commas. -/
theorem joined_eq_intercalate (code index line : List Char) {lexeme first : List Char}
    {more : List (List Char)} (split : lexeme.splitOn ',' = first :: more) :
    joined code lexeme index line =
      [','].intercalate (code :: ((' ' :: first) :: more ++ [' ' :: index, ' ' :: line])) := by
  have whole : lexeme = [','].intercalate (first :: more) := by
    rw [← split, List.intercalate_splitOn]
  -- the blank in front of the lexeme belongs to its first piece
  have blank : [','].intercalate ((' ' :: first) :: more) =
      ' ' :: [','].intercalate (first :: more) := by
    cases more <;> simp [List.intercalate_cons_cons]
  have behind : (' ' :: first) :: more ++ [' ' :: index, ' ' :: line] ≠ [] := List.cons_ne_nil _ _
  rw [List.intercalate_cons_of_ne_nil behind,
    intercalate_append (List.cons_ne_nil _ _) (List.cons_ne_nil _ _), blank, ← whole,
    List.intercalate_cons_cons, List.intercalate_singleton, joined]
  simp only [List.append_assoc, List.cons_append, List.nil_append]

section Joined

variable {code lexeme index line : List Char} (hcode : NumeralText code)
  (hindex : NumeralText index) (hline : NumeralText line)

include hline in
/-- A row ends with the last digit of its line number. -/
theorem withoutEnd_joined : withoutEnd (joined code lexeme index line) =
    joined code lexeme index line := by
  apply dropEndWhile_eq_self
  intro c last
  have : c ∈ line := by
    have final : (joined code lexeme index line).getLast? = line.getLast? := by
      obtain ⟨first, rest, rfl⟩ := List.exists_cons_of_ne_nil hline.ne
      simp [joined, List.getLast?_append, List.getLast?_cons]
    rw [Option.mem_def, final] at last
    exact List.mem_of_getLast? last
  rcases hline.char c this with digit | rfl
  · cases ends : isLineEnd c with
    | false => rfl
    | true =>
      rw [isLineEnd, Bool.or_eq_true, decide_eq_true_eq, decide_eq_true_eq] at ends
      rcases ends with rfl | rfl
      · cases digit
      · cases digit
  · rfl

include hcode hindex hline

/-- A row is cut into its code, the pieces of its lexeme, its index and its line. -/
theorem fields_joined : Record.fields (joined code lexeme index line) =
    code :: ((lexeme.splitOn ',').map trim ++ [index, line]) := by
  obtain ⟨first, more, split⟩ := List.exists_cons_of_ne_nil (List.splitOn_ne_nil ',' lexeme)
  have free : ∀ piece ∈ code :: ((' ' :: first) :: more ++ [' ' :: index, ' ' :: line]),
      ',' ∉ piece := by
    intro piece mem
    simp only [List.mem_cons, List.mem_append, List.not_mem_nil, or_false] at mem
    rcases mem with rfl | (rfl | mem) | rfl | rfl
    · exact hcode.comma_not_mem
    · exact not_mem_blank_cons (by decide) (mem_splitOn (split ▸ List.mem_cons_self)).1
    · exact (mem_splitOn (split ▸ List.mem_cons_of_mem first mem)).1
    · exact not_mem_blank_cons (by decide) hindex.comma_not_mem
    · exact not_mem_blank_cons (by decide) hline.comma_not_mem
  have last : (code :: ((' ' :: first) :: more ++ [' ' :: index, ' ' :: line])).getLast? =
      some (' ' :: line) := by
    simp [List.getLast?_cons, List.getLast?_append]
  rw [joined_eq_intercalate _ _ _ split,
    Record.fields_intercalate free last (List.cons_ne_nil _ _), split]
  simp only [List.map_cons, List.map_append, List.map_nil, trim_eq_self_iff.2 hcode.trimmed,
    trim_cons_blank (show isBlank ' ' = true by decide), trim_eq_self_iff.2 hindex.trimmed,
    trim_eq_self_iff.2 hline.trimmed]

/-- A row is cut into the columns that it joins. -/
theorem columns_fields_joined (h : Recordable lexeme) :
    Record.columns (Record.fields (joined code lexeme index line)) =
      .ok ⟨code, lexeme, index, line⟩ := by
  rw [fields_joined hcode hindex hline]
  rcases h with rfl | ⟨ne, free, -, trimmed⟩
  · -- the comma leaves two empty pieces, and the first of them is known for it
    rfl
  · have single : lexeme.splitOn ',' = [lexeme] := by
      have uncut : ∀ piece ∈ [lexeme], ',' ∉ piece := by simpa using free
      simpa using List.splitOn_intercalate ',' uncut (List.cons_ne_nil _ _)
    rw [single, List.map_singleton, trim_eq_self_iff.2 trimmed]
    exact Record.columns_eq_ok_iff.2 ⟨_, rfl, .field ne⟩

theorem newline_not_mem_joined (h : '\n' ∉ lexeme) : '\n' ∉ joined code lexeme index line :=
  newline_not_mem_of_columns hcode.newline_not_mem h hindex.newline_not_mem hline.newline_not_mem

end Joined

/-- A token whose row is a record. -/
structure Token.Writable (t : Token) : Prop where
  lexeme : Recordable t.lexeme.toList
  line : t.line < UInt64.size
  low : Int64.minValue.toInt ≤ t.tableIndex
  high : t.tableIndex ≤ Int64.maxValue.toInt

/-- What is read of the row of a token, on a line with the given span. -/
def Token.reread (t : Token) (span : Span) : Token :=
  { t with position := t.tableIndex, resolved := none, span }

/-- Every code is written with 32 bits. -/
theorem Kind.bounds_code (k : Kind) :
    Int32.minValue.toInt ≤ k.code ∧ k.code ≤ Int32.maxValue.toInt := by
  cases k <;> decide

theorem parse_row {t : Token} (h : t.Writable) (span : Span) :
    Record.parse span t.row.toList = .ok (t.reread span) := by
  obtain ⟨low, high⟩ := t.kind.bounds_code
  rw [toList_tokenRow, Record.parse_eq_ok_iff]
  refine ⟨_, columns_fields_joined (numeralText_toString_int _) (numeralText_toString_int _)
    (numeralText_toString _) h.lexeme, ?_⟩
  exact Record.token_eq_ok_iff.2 ⟨intWithin?_toString low high,
    intWithin?_toString h.low h.high, natBelow?_toString h.line,
    String.ofList_toList.symm, rfl, rfl⟩

/-! ## The lines of a table -/

/-- A text that stands on a line by itself. -/
structure LineText (cs : List Char) : Prop where
  newline : '\n' ∉ cs
  ending : withoutEnd cs = cs
  notBlank : cs.all isBlank = false

theorem Token.Writable.lineText {t : Token} (h : t.Writable) : LineText t.row.toList := by
  have hcode := numeralText_toString_int t.kind.code
  have hindex := numeralText_toString_int t.tableIndex
  have hline := numeralText_toString t.line
  rw [toList_tokenRow]
  refine ⟨newline_not_mem_joined hcode hindex hline (newline_not_mem_of_recordable h.lexeme),
    withoutEnd_joined hline, ?_⟩
  rw [List.all_eq_false]
  refine ⟨',', ?_, by decide⟩
  rw [joined]
  exact List.mem_append_right _ List.mem_cons_self

theorem toList_renderRows_cons (r : String) (rows : List String) :
    (renderRows (r :: rows)).toList = r.toList ++ '\n' :: (renderRows rows).toList := by
  rw [renderRows, List.map_cons, String.join_cons, String.toList_append, String.toList_append,
    renderRows, List.append_assoc]
  rfl

theorem texts_place {rows : List String} (h : ∀ r ∈ rows, LineText r.toList) (n start : Nat) :
    ((Line.place n start (rawLines (renderRows rows).toList)).filter (!·.isBlank)).map Line.text =
      rows.map String.toList := by
  induction rows generalizing n start with
  | nil => rfl
  | cons r rows ih =>
    have clean := h r List.mem_cons_self
    have text : withoutEnd (r.toList ++ ['\n']) = r.toList := by
      have : dropEndWhile isLineEnd (r.toList ++ ['\n']) = dropEndWhile isLineEnd r.toList := by
        apply dropEndWhile_append
        intro c hc
        rw [List.mem_singleton.1 hc]
        exact isLineEnd_newline
      rw [withoutEnd, this]
      exact clean.ending
    rw [toList_renderRows_cons, rawLines_append_newline clean.newline, Line.place, List.filter_cons,
      if_pos]
    · rw [List.map_cons, List.map_cons, text, ih]
      intro r' mem
      exact h r' (List.mem_cons_of_mem _ mem)
    · rw [Line.isBlank, text, clean.notBlank]
      rfl

/-- Rows that stand on a line each are the lines of the text that they are rendered to. -/
theorem texts_recordLines {rows : List String} (h : ∀ r ∈ rows, LineText r.toList) :
    (recordLines (renderRows rows)).map Line.text = rows.map String.toList :=
  texts_place h 1 0

/-- What the rows of tokens are read as, each on some line. -/
def Rereads (tokens again : List Token) : Prop :=
  List.Forall₂ (fun t u => ∃ span, u = t.reread span) tokens again

/-- A table of writable tokens is read back row by row. -/
theorem readTokens_renderRows {tokens : List Token} (h : ∀ t ∈ tokens, t.Writable) :
    ∃ again, (readTokens (renderRows (tokens.map Token.row))).outcome = .ok again ∧
      Rereads tokens again := by
  have texts : (recordLines (renderRows (tokens.map Token.row))).map Line.text =
      tokens.map (·.row.toList) := by
    rw [texts_recordLines, List.map_map]
    · rfl
    · intro r mem
      obtain ⟨t, inTokens, rfl⟩ := List.mem_map.1 mem
      exact (h t inTokens).lineText
  simp only [outcome_readTokens_eq_ok_iff]
  generalize recordLines (renderRows (tokens.map Token.row)) = lines at texts
  induction tokens generalizing lines with
  | nil =>
    rw [List.map_eq_nil_iff.1 texts]
    exact ⟨[], .nil, .nil⟩
  | cons t tokens ih =>
    obtain ⟨l, lines, rfl, text, texts⟩ := List.map_eq_cons_iff.1 texts
    obtain ⟨again, read, same⟩ := ih (fun u mem => h u (List.mem_cons_of_mem _ mem)) lines texts
    have first : Record.parse l.span l.text = .ok (t.reread l.span) := by
      rw [text]
      exact parse_row (h t List.mem_cons_self) l.span
    exact ⟨t.reread l.span :: again, .cons first read, .cons ⟨l.span, rfl⟩ same⟩

/-! ## The token table of a source -/

theorem writable_of_parse {span : Span} {line : List Char} {t : Token}
    (h : Record.parse span line = .ok t) (notIn : '\n' ∉ line) : t.Writable := by
  obtain ⟨c, -, made⟩ := Record.parse_eq_ok_iff.1 h
  obtain ⟨-, position, line, -, resolved, -⟩ := Record.token_eq_ok_iff.1 made
  have index : t.tableIndex = t.position := by
    rw [Token.tableIndex, resolved]
  obtain ⟨low, high⟩ := bounds_of_intWithin? position
  exact ⟨recordable_of_parse h notIn, lt_of_natBelow? line, index ▸ low, index ▸ high⟩

theorem writable_of_readTokens {source : String} {tokens : List Token}
    (h : (readTokens source).outcome = .ok tokens) {t : Token} (mem : t ∈ tokens) :
    t.Writable := by
  obtain ⟨i, ht⟩ := List.getElem?_of_mem mem
  obtain ⟨l, inLines, parsed⟩ := exists_line_of_token h ht
  obtain ⟨line, -⟩ := mem_recordLines_iff.1 inLines
  obtain ⟨-, -, -, -, oneLine⟩ := exists_parts_of_isLineOf line
  exact writable_of_parse parsed oneLine

/-- Any address is shown as an index that a position can be. -/
theorem Token.Writable.resolve {t : Token} (h : t.Writable) (address : Nat) :
    (t.resolve address).Writable :=
  ⟨h.lexeme, h.line, Int64.minValue_le_toInt _, Int64.toInt_le _⟩

/-- Gives a token an address, if there is one to give. -/
def Token.addressed (t : Token) (address? : Option Nat) : Token :=
  (address?.map t.resolve).getD t

theorem Token.Writable.addressed {t : Token} (h : t.Writable) (address? : Option Nat) :
    (t.addressed address?).Writable := by
  cases address? with
  | none => exact h
  | some address => exact h.resolve address

/-- A row does not show the address that a token was given but the index: reading it gives the
token back with that index for a position. -/
theorem Token.reread_addressed (t : Token) (address? : Option Nat) (span : Span) :
    (t.addressed address?).reread span =
      { t with position := (t.addressed address?).tableIndex, resolved := none, span } := by
  cases address? <;> rfl

/-- The token table of a source reads back, whatever addresses its tokens are given: as many
tokens, in order, each with its kind, its lexeme and its line, and its index for a position. -/
theorem tokenTable_reads_back {source : String} {tokens : List Token}
    (h : (readTokens source).outcome = .ok tokens) (given : Nat → Option Nat) :
    ∃ again,
      (readTokens (renderRows
        ((tokens.mapIdx fun i t => t.addressed (given i)).map Token.row))).outcome = .ok again ∧
      again.length = tokens.length ∧
      ∀ (i : Nat) (t : Token), tokens[i]? = some t → ∃ span, again[i]? =
        some { t with position := (t.addressed (given i)).tableIndex, resolved := none, span } := by
  have writable : ∀ u ∈ tokens.mapIdx fun i t => t.addressed (given i), u.Writable := by
    intro u mem
    obtain ⟨i, lt, rfl⟩ := List.mem_mapIdx.1 mem
    exact (writable_of_readTokens h (List.getElem_mem lt)).addressed (given i)
  obtain ⟨again, read, same⟩ := readTokens_renderRows writable
  have length : again.length = tokens.length := by
    rw [← same.length_eq, List.length_mapIdx]
  refine ⟨again, read, length, ?_⟩
  intro i t ht
  obtain ⟨lt, rfl⟩ := List.getElem?_eq_some_iff.1 ht
  have lt' : i < again.length := by omega
  have inside : i < (tokens.mapIdx fun i t => t.addressed (given i)).length := by
    rw [List.length_mapIdx]
    exact lt
  obtain ⟨span, e⟩ := (List.forall₂_iff_get.1 same).2 i inside lt'
  refine ⟨span, ?_⟩
  rw [List.getElem?_eq_getElem lt', ← Token.reread_addressed]
  simpa using e

/-- A comma, a string with a blank and a carriage return inside, and a name of two bytes. -/
def oddLexemes : String := "-76,,,-1,3\r\n\n-63, a \r é , -1, 4\n-51,ñ,-2,5"

/-- The tokens that these are. -/
def oddTokens : List Token :=
  [⟨.comma, ",", 3, -1, none, ⟨0, 10⟩⟩, ⟨.stringConst, "a \r é", 4, -1, none, ⟨13, 32⟩⟩,
    ⟨.intId, "ñ", 5, -2, none, ⟨33, 44⟩⟩]

/-- A comma stays a comma, and an address that is no signed word is shown, and read, as a negative
index. -/
theorem oddLexemes_reads_back :
    (readTokens oddLexemes).outcome = .ok oddTokens ∧
      ∃ again,
        (readTokens "-76, ,, -1, 3\n-63, a \r é, -1, 4\n-51, ñ, -7, 5\n").outcome = .ok again ∧
        again.length = 3 ∧
        (∃ span, again[0]? = some ⟨.comma, ",", 3, -1, none, span⟩) ∧
        (∃ span, again[1]? = some ⟨.stringConst, "a \r é", 4, -1, none, span⟩) ∧
        ∃ span, again[2]? = some ⟨.intId, "ñ", 5, -7, none, span⟩ := by
  have read : (readTokens oddLexemes).outcome = .ok oddTokens := by decide +kernel
  obtain ⟨again, reread, length, each⟩ :=
    tokenTable_reads_back read fun i => if i = 2 then some (2 ^ 64 - 7) else none
  have table : renderRows ((oddTokens.mapIdx fun i t =>
      t.addressed (if i = 2 then some (2 ^ 64 - 7) else none)).map Token.row) =
        "-76, ,, -1, 3\n-63, a \r é, -1, 4\n-51, ñ, -7, 5\n" := by
    decide +kernel
  rw [table] at reread
  exact ⟨read, again, reread, length, each 0 _ rfl, each 1 _ rfl, each 2 _ rfl⟩

end Pseudocode
