/-
  Pseudocode.Proofs.Stream.Layout — what the layout of a source does not change.

  A source lays its records out: with blank lines between them, with carriage returns at the ends of
  lines, with blanks around the fields, with or without a last newline. What counts is the list of
  its visible lines, and of each line the trimmed pieces between its commas.

  Padding does change how many fields a record has, since empty pieces at the end of a line are
  dropped and blank ones are not. But a record needs a line number, and whatever stands behind it is
  passed over; so the fields that are read end with one that is not empty, and those are the first
  pieces of the line, however many more there are (`exists_fields_eq`).

  Proved:
  (1) The visible lines are the ones that are read (`texts_recordLines_eq`).
  (2) Lines with the same pieces hold the same record (`parse_of_samePieces`), so sources with the
      same records are read as tokens that differ in their spans only (`readTokens_of_sameRecords`).
  (3) A change of layout leaves the records as they are (`Relaid.sameRecords`).
  (4) Sources with the same records, and so sources that differ by changes of layout, show the same
      tables, the same document and the same counts, or the same fault (`layout_is_immaterial`).
-/

import Pseudocode.Proofs.Output.Fixpoint
import Pseudocode.Proofs.Stream.Placement
import Mathlib.Data.List.TakeWhile
import Mathlib.Logic.Relation

namespace Pseudocode

open Text

/-! ## Visible lines -/

/-- The lines of a text that are not blank: cut at the newlines, without the carriage returns at
their ends. -/
def visibleLines (source : List Char) : List (List Char) :=
  ((source.splitOn '\n').map (dropEndWhile (· = '\r'))).filter (!·.all isBlank)

/-- What a line holds between its commas, without the blanks around. -/
def trimmedPieces (line : List Char) : List (List Char) := (line.splitOn ',').map trim

/-- Two lines with as many commas and, piece by piece, the same between them. -/
def SamePieces (line other : List Char) : Prop := trimmedPieces line = trimmedPieces other

/-- Two texts with as many visible lines and, line by line, the same pieces. -/
def SameRecords (source other : List Char) : Prop :=
  List.Forall₂ SamePieces (visibleLines source) (visibleLines other)

theorem sameRecords_iff {source other : List Char} :
    SameRecords source other ↔
      (visibleLines source).map trimmedPieces = (visibleLines other).map trimmedPieces := by
  rw [← List.forall₂_eq_eq_eq, List.forall₂_map_left_iff, List.forall₂_map_right_iff]
  rfl

theorem SameRecords.refl (source : List Char) : SameRecords source source :=
  sameRecords_iff.2 rfl

theorem SameRecords.symm {source other : List Char} (h : SameRecords source other) :
    SameRecords other source :=
  sameRecords_iff.2 (sameRecords_iff.1 h).symm

theorem SameRecords.trans {first second third : List Char} (h : SameRecords first second)
    (h' : SameRecords second third) : SameRecords first third :=
  sameRecords_iff.2 ((sameRecords_iff.1 h).trans (sameRecords_iff.1 h'))

theorem visibleLines_append_newline (before after : List Char) :
    visibleLines (before ++ '\n' :: after) = visibleLines before ++ visibleLines after := by
  unfold visibleLines
  rw [List.splitOn_append_cons_self, List.map_append, List.filter_append]

theorem visibleLines_of_not_mem {line : List Char} (h : '\n' ∉ line) :
    visibleLines line = [dropEndWhile (· = '\r') line].filter (!·.all isBlank) := by
  rw [visibleLines, List.splitOn_eq_singleton h, List.map_singleton]

theorem texts_linesOf (source : List Char) :
    (linesOf source).map Line.text = (source.splitOn '\n').map (dropEndWhile (· = '\r')) := by
  refine List.ext_getElem? fun k => ?_
  rw [linesOf, List.getElem?_map, List.getElem?_mapIdx, List.getElem?_map, Option.map_map]
  rfl

/-- The visible lines of a source are the lines that records are read from. -/
theorem texts_recordLines_eq (source : String) :
    (recordLines source).map Line.text = visibleLines source.toList := by
  rw [recordLines_eq, visibleLines, ← texts_linesOf, List.filter_map]
  rfl

/-! ## Records on lines with the same pieces -/

/-- Fields are the pieces of their line without some that are empty, at its end. -/
theorem exists_trimmedPieces_eq (line : List Char) :
    ∃ dropped, trimmedPieces line = Record.fields line ++ dropped ∧
      ∀ piece ∈ dropped, piece = [] := by
  obtain ⟨dropped, split, empty⟩ := exists_dropEndWhile_append List.isEmpty (line.splitOn ',')
  refine ⟨dropped.map trim, ?_, ?_⟩
  · rw [Record.fields, ← List.map_append, ← split]
    rfl
  · intro piece mem
    obtain ⟨raw, inDropped, rfl⟩ := List.mem_map.1 mem
    rw [List.isEmpty_iff.1 (empty raw inDropped)]
    rfl

/-- Fields are the first pieces of their line: all that end with one that is not empty. -/
theorem exists_fields_eq {line : List Char} {front rest : List (List Char)} {last : List Char}
    (pieces : trimmedPieces line = front ++ rest) (final : front.getLast? = some last)
    (filled : last ≠ []) : ∃ more, Record.fields line = front ++ more := by
  obtain ⟨dropped, split, empty⟩ := exists_trimmedPieces_eq line
  have parts : Record.fields line ++ dropped = front ++ rest := split.symm.trans pieces
  rcases List.append_eq_append_iff.1 parts with ⟨surplus, split, within⟩ | ⟨more, split, -⟩
  · cases surplus with
    | nil => exact ⟨[], by rw [split, List.append_nil, List.append_nil]⟩
    | cons piece surplus =>
      -- the last of the front pieces would be among those that were dropped for being empty
      have mem : last ∈ dropped := by
        rw [split, List.getLast?_append_cons] at final
        rw [within]
        exact List.mem_append_left rest (List.mem_of_getLast? final)
      exact absurd (empty last mem) filled
  · exact ⟨more, split⟩

/-- What is taken from fields is taken from their first ones, up to the line number. -/
theorem Record.Takes.exists_front {behind : List (List Char)} {lexeme position line : List Char}
    (h : Takes behind lexeme position line) :
    ∃ front rest, behind = front ++ rest ∧ front.getLast? = some line ∧
      ∀ more, Takes (front ++ more) lexeme position line := by
  cases h with
  | @field _ _ _ rest filled =>
    exact ⟨[lexeme, position, line], rest, rfl, rfl, fun more => .field filled⟩
  | @comma second _ _ rest =>
    exact ⟨[[], second, position, line], rest, rfl, rfl, fun more => .comma⟩

/-- Lines with the same pieces hold the same record. -/
theorem parse_of_samePieces {line other : List Char} (same : SamePieces line other)
    {span span' : Span} {t : Token} (h : Record.parse span line = .ok t) :
    Record.parse span' other = .ok { t with span := span' } := by
  obtain ⟨c, cut, made⟩ := Record.parse_eq_ok_iff.1 h
  obtain ⟨hcode, hposition, hline, hlexeme, hresolved, -⟩ := Record.token_eq_ok_iff.1 made
  obtain ⟨behind, split, takes⟩ := Record.columns_eq_ok_iff.1 cut
  obtain ⟨front, rest, rfl, final, extends_⟩ := takes.exists_front
  have filled : c.line ≠ [] := by
    intro e
    rw [e] at hline
    cases hline
  obtain ⟨dropped, parts, -⟩ := exists_trimmedPieces_eq line
  have pieces : trimmedPieces other = (c.code :: front) ++ (rest ++ dropped) := by
    rw [← same, parts, split]
    simp
  have final : (c.code :: front).getLast? = some c.line := by
    rw [List.getLast?_cons, final]
    rfl
  obtain ⟨more, fields⟩ := exists_fields_eq pieces final filled
  refine Record.parse_eq_ok_iff.2 ⟨c, Record.columns_eq_ok_iff.2 ⟨front ++ more, ?_, extends_ more⟩,
    Record.token_eq_ok_iff.2 ⟨hcode, hposition, hline, hlexeme, hresolved, rfl⟩⟩
  rw [fields, List.cons_append]

/-! ## Sources with the same records -/

/-- Streams that differ in the spans of their tokens only. -/
def MovedTo (tokens others : List Token) : Prop :=
  List.Forall₂ (fun t u : Token => ∃ span, u = { t with span }) tokens others

theorem MovedTo.alike {tokens others : List Token} (h : MovedTo tokens others) :
    Alike tokens others := by
  refine map_eq_map_of_forall₂ h ?_
  rintro t u ⟨span, rfl⟩
  rfl

/-- Resolving a token does not look at its span. -/
theorem annotate_moved (symbols : SymbolTable) (t : Token) (span : Span) :
    annotate symbols { t with span } = { annotate symbols t with span } := by
  unfold annotate
  show (if t.isIdentifier then _ else _) = _
  by_cases hid : t.isIdentifier = true
  · rw [if_pos hid, if_pos hid]
    cases symbols.addressOf? t.lexeme <;> rfl
  · rw [if_neg hid, if_neg hid]

/-- Streams that differ in their spans show the same once they are resolved by one table. -/
theorem MovedTo.map_annotate {α : Type} {tokens others : List Token} (h : MovedTo tokens others)
    (symbols : SymbolTable) {f : Token → α} (shown : ∀ t u : Token, t.ShowsAs u → f t = f u) :
    (tokens.map (annotate symbols)).map f = (others.map (annotate symbols)).map f := by
  rw [List.map_map, List.map_map]
  refine map_eq_map_of_forall₂ h ?_
  rintro t u ⟨span, rfl⟩
  apply shown
  rw [annotate_moved symbols t span]
  exact ⟨rfl, rfl, rfl, rfl⟩

/-- Sources with the same records are read as the same tokens, each at its own place. -/
theorem readTokens_of_sameRecords {source other : String} {tokens : List Token}
    (same : SameRecords source.toList other.toList)
    (read : (readTokens source).outcome = .ok tokens) :
    ∃ others, (readTokens other).outcome = .ok others ∧ MovedTo tokens others := by
  have lines : List.Forall₂ (fun l l' : Line => SamePieces l.text l'.text)
      (recordLines source) (recordLines other) := by
    rw [SameRecords, ← texts_recordLines_eq, ← texts_recordLines_eq] at same
    rwa [List.forall₂_map_left_iff, List.forall₂_map_right_iff] at same
  simp only [outcome_readTokens_eq_ok_iff] at read ⊢
  generalize recordLines source = here at lines read
  generalize recordLines other = there at lines
  induction lines generalizing tokens with
  | nil =>
    cases read
    exact ⟨[], .nil, .nil⟩
  | @cons l l' here there pieces _ ih =>
    cases read with
    | @cons _ t _ tokens parsed read =>
      obtain ⟨others, read', moved⟩ := ih read
      have parsed' : Record.parse l'.span l'.text = .ok { t with span := l'.span } :=
        parse_of_samePieces pieces parsed
      exact ⟨_, .cons parsed' read', .cons ⟨l'.span, rfl⟩ moved⟩

/-- Two outcomes that show the same: faults that break the same rule, about the same name on the
same program line, or results with the same tables, the same document and the same counts. -/
inductive ShowTheSame : Except Fault Analysis → Except Fault Analysis → Prop
  | faults {f g : Fault} (rule : f.rule = g.rule) (line : f.line? = g.line?)
      (lexeme : f.lexeme? = g.lexeme?) : ShowTheSame (.error f) (.error g)
  | results {a b : Analysis} (tables : a.tables = b.tables) (document : a.document = b.document)
      (tally : a.tally = b.tally) : ShowTheSame (.ok a) (.ok b)

/-- Streams that differ in their spans are analysed to outcomes that show the same. -/
theorem showTheSame_of_moved (settings : Settings) {tokens others : List Token}
    (moved : MovedTo tokens others) :
    ShowTheSame (analyze settings tokens).outcome (analyze settings others).outcome := by
  cases analysed : (analyze settings tokens).outcome with
  | error fault =>
    obtain ⟨other, analysed', same⟩ := outcome_analyze_of_alike_of_fault moved.alike analysed
    rw [analysed']
    exact .faults same.rule.symm same.line.symm same.lexeme.symm
  | ok a =>
    rw [outcome_analyze_of_alike moved.alike analysed]
    have rows := moved.map_annotate a.symbols fun t u => Token.ShowsAs.row
    have values := moved.map_annotate a.symbols fun t u => Token.ShowsAs.json
    rw [← tokens_of_outcome_analyze analysed] at rows values
    refine .results ?_ ?_ rfl
    · simp only [Analysis.tables, rows]
    · simp only [Analysis.document, Analysis.json, values]

/-- Sources with the same records are analysed to outcomes that show the same. -/
theorem showTheSame_of_sameRecords (settings : Settings) {source other : String}
    (same : SameRecords source.toList other.toList) :
    ShowTheSame (analyzeSource settings source).outcome (analyzeSource settings other).outcome := by
  rw [outcome_analyzeSource, outcome_analyzeSource]
  cases read : (readTokens source).outcome with
  | ok tokens =>
    obtain ⟨others, read', moved⟩ := readTokens_of_sameRecords same read
    rw [read', ok_bind, ok_bind]
    exact showTheSame_of_moved settings moved
  | error fault =>
    cases read' : (readTokens other).outcome with
    | ok others =>
      obtain ⟨tokens, accepted, -⟩ := readTokens_of_sameRecords same.symm read'
      cases read.symm.trans accepted
    | error fault' =>
      -- a malformed record is no name on a program line
      obtain ⟨l, -, ⟨cause, -, rfl⟩, -⟩ := outcome_readTokens_eq_error_iff.1 read
      obtain ⟨l', -, ⟨cause', -, rfl⟩, -⟩ := outcome_readTokens_eq_error_iff.1 read'
      exact .faults rfl rfl rfl

/-! ## Blanks around pieces -/

/-- A list has no `c`, or it is cut behind the last one. -/
theorem not_mem_or_exists_last {α : Type} [DecidableEq α] (c : α) (l : List α) :
    c ∉ l ∨ ∃ front last, l = front ++ c :: last ∧ c ∉ last := by
  by_cases mem : c ∈ l
  · obtain ⟨last, front, split, notIn⟩ := List.eq_append_cons_of_mem (List.mem_reverse.2 mem)
    refine .inr ⟨front.reverse, last.reverse, ?_, by simpa using notIn⟩
    rw [← List.reverse_reverse l, split]
    simp
  · exact .inl mem

theorem trim_append_blanks {blanks : List Char} (blank : ∀ c ∈ blanks, isBlank c = true)
    (cs : List Char) : trim (cs ++ blanks) = trim cs := by
  unfold trim
  rw [List.dropWhile_append]
  split
  · rename_i empty
    rw [List.isEmpty_iff.1 empty, List.dropWhile_eq_nil_iff.2 blank]
  · exact dropEndWhile_append blank _

theorem trim_blanks_append {blanks : List Char} (blank : ∀ c ∈ blanks, isBlank c = true)
    (cs : List Char) : trim (blanks ++ cs) = trim cs := by
  induction blanks with
  | nil => rfl
  | cons b blanks ih =>
    rw [List.cons_append, trim_cons_blank (blank b List.mem_cons_self),
      ih fun c mem => blank c (List.mem_cons_of_mem b mem)]

theorem trimmedPieces_append_comma (line other : List Char) :
    trimmedPieces (line ++ ',' :: other) = trimmedPieces line ++ trimmedPieces other := by
  unfold trimmedPieces
  rw [List.splitOn_append_cons_self, List.map_append]

theorem trimmedPieces_of_not_mem {line : List Char} (h : ',' ∉ line) :
    trimmedPieces line = [trim line] := by
  rw [trimmedPieces, List.splitOn_eq_singleton h, List.map_singleton]

section Padding

variable {blanks : List Char} (blank : ∀ c ∈ blanks, isBlank c = true)

include blank

theorem comma_not_mem_blanks : ',' ∉ blanks := by
  intro mem
  cases blank ',' mem

theorem trimmedPieces_append_blanks (line : List Char) :
    trimmedPieces (line ++ blanks) = trimmedPieces line := by
  have single {last : List Char} (notIn : ',' ∉ last) :
      trimmedPieces (last ++ blanks) = trimmedPieces last := by
    have notIn' : ',' ∉ last ++ blanks := by simp [notIn, comma_not_mem_blanks blank]
    rw [trimmedPieces_of_not_mem notIn', trimmedPieces_of_not_mem notIn, trim_append_blanks blank]
  rcases not_mem_or_exists_last ',' line with notIn | ⟨front, last, rfl, notIn⟩
  · exact single notIn
  · rw [List.append_assoc, List.cons_append, trimmedPieces_append_comma, single notIn,
      trimmedPieces_append_comma]

theorem trimmedPieces_blanks_append (line : List Char) :
    trimmedPieces (blanks ++ line) = trimmedPieces line := by
  have single {first : List Char} (notIn : ',' ∉ first) :
      trimmedPieces (blanks ++ first) = trimmedPieces first := by
    have notIn' : ',' ∉ blanks ++ first := by simp [notIn, comma_not_mem_blanks blank]
    rw [trimmedPieces_of_not_mem notIn', trimmedPieces_of_not_mem notIn, trim_blanks_append blank]
  by_cases mem : ',' ∈ line
  · obtain ⟨first, rest, rfl, notIn⟩ := List.eq_append_cons_of_mem mem
    rw [← List.append_assoc, trimmedPieces_append_comma, single notIn, trimmedPieces_append_comma]
  · exact single mem

/-- Blanks at an end of a piece do not change the pieces of a line. -/
theorem samePieces_of_padding {front back : List Char}
    (edge : (∀ c, front.getLast? = some c → c = ',') ∨ ∀ c, back.head? = some c → c = ',') :
    SamePieces (front ++ back) (front ++ blanks ++ back) := by
  unfold SamePieces
  rcases edge with edge | edge
  · rcases List.eq_nil_or_concat front with rfl | ⟨front, c, rfl⟩
    · rw [List.nil_append, List.nil_append, trimmedPieces_blanks_append blank]
    · obtain rfl : c = ',' := edge c (by simp)
      simp only [List.concat_eq_append, List.append_assoc, List.cons_append, List.nil_append,
        trimmedPieces_append_comma, trimmedPieces_blanks_append blank]
  · cases back with
    | nil => rw [List.append_nil, List.append_nil, trimmedPieces_append_blanks blank]
    | cons c back =>
      obtain rfl : c = ',' := edge c rfl
      rw [trimmedPieces_append_comma, trimmedPieces_append_comma, trimmedPieces_append_blanks blank]

end Padding

/-! ## Changes of layout -/

/-- Lines with the same pieces make the same records, when both are blank or none is. -/
theorem sameRecords_of_lines {line other : List Char} (hline : '\n' ∉ line) (hother : '\n' ∉ other)
    (blank : line.all isBlank = other.all isBlank) (same : SamePieces line other) :
    SameRecords line other := by
  have ending (l : List Char) : (dropEndWhile (· = '\r') l).all isBlank = l.all isBlank ∧
      SamePieces (dropEndWhile (· = '\r') l) l := by
    obtain ⟨returns, split, all⟩ := exists_dropEndWhile_append (· = '\r') l
    have blanks : ∀ c ∈ returns, isBlank c = true := by
      intro c mem
      obtain rfl : c = '\r' := by simpa using all c mem
      rfl
    constructor
    · conv => rhs; rw [split, List.all_append, List.all_eq_true.2 blanks, Bool.and_true]
    · unfold SamePieces
      conv => rhs; rw [split, trimmedPieces_append_blanks blanks]
  obtain ⟨blankLine, samePieces⟩ := ending line
  obtain ⟨blankOther, samePieces'⟩ := ending other
  have pieces : SamePieces (dropEndWhile (· = '\r') line) (dropEndWhile (· = '\r') other) :=
    samePieces.trans (same.trans samePieces'.symm)
  rw [SameRecords, visibleLines_of_not_mem hline, visibleLines_of_not_mem hother]
  by_cases h : other.all isBlank = true
  · simp [blankLine, blankOther, blank, h]
  · simpa [blankLine, blankOther, blank, h] using pieces

theorem SameRecords.append {before before' after after' : List Char}
    (h : SameRecords before before') (h' : SameRecords after after') :
    SameRecords (before ++ '\n' :: after) (before' ++ '\n' :: after') := by
  rw [SameRecords, visibleLines_append_newline, visibleLines_append_newline]
  exact List.rel_append h h'

/-- Blanks at an end of a field do not change the records. -/
theorem sameRecords_of_padding {blanks : List Char} (blank : ∀ c ∈ blanks, isBlank c = true)
    (oneLine : '\n' ∉ blanks) {before after : List Char}
    (edge : (∀ c, before.getLast? = some c → c = ',' ∨ c = '\n') ∨
      ∀ c, after.head? = some c → c = ',' ∨ c = '\n') :
    SameRecords (before ++ after) (before ++ blanks ++ after) := by
  -- the line that the blanks come into, without the lines in front of it and behind it
  have line {front back : List Char} (hfront : '\n' ∉ front) (hback : '\n' ∉ back)
      (edge : (∀ c, front.getLast? = some c → c = ',' ∨ c = '\n') ∨
        ∀ c, back.head? = some c → c = ',' ∨ c = '\n') :
      SameRecords (front ++ back) (front ++ blanks ++ back) := by
    apply sameRecords_of_lines
    · simp [hfront, hback]
    · simp [hfront, hback, oneLine]
    · simp [List.all_eq_true.2 blank]
    · apply samePieces_of_padding blank
      refine edge.imp ?_ ?_
      · intro h c last
        exact (h c last).resolve_right fun e => hfront (e ▸ List.mem_of_getLast? last)
      · intro h c first
        exact (h c first).resolve_right fun e => hback (e ▸ List.mem_of_mem_head? first)
  have tail {front : List Char} (hfront : '\n' ∉ front)
      (edge : (∀ c, front.getLast? = some c → c = ',' ∨ c = '\n') ∨
        ∀ c, after.head? = some c → c = ',' ∨ c = '\n') :
      SameRecords (front ++ after) (front ++ blanks ++ after) := by
    by_cases mem : '\n' ∈ after
    · obtain ⟨back, rest, rfl, hback⟩ := List.eq_append_cons_of_mem mem
      rw [← List.append_assoc, ← List.append_assoc]
      refine (line hfront hback (edge.imp_right ?_)).append (.refl rest)
      intro h c first
      exact h c (by simp [first])
    · exact line hfront mem edge
  rcases not_mem_or_exists_last '\n' before with notIn | ⟨rest, front, rfl, notIn⟩
  · exact tail notIn edge
  · have := (SameRecords.refl rest).append (tail notIn (edge.imp_left fun h c last => h c (by
      simp [List.getLast?_append, List.getLast?_cons, last])))
    simpa using this

theorem visibleLines_of_blank {blanks : List Char} (blank : ∀ c ∈ blanks, isBlank c = true) :
    visibleLines blanks = [] := by
  refine List.filter_eq_nil_iff.2 fun line mem => ?_
  obtain ⟨piece, inBlanks, rfl⟩ := List.mem_map.1 mem
  obtain ⟨returns, split, -⟩ := exists_dropEndWhile_append (· = '\r') piece
  have : (dropEndWhile (· = '\r') piece).all isBlank = true := by
    rw [List.all_eq_true]
    intro c hc
    exact blank c ((mem_splitOn inBlanks).2 c (split ▸ List.mem_append_left returns hc))
  simp [this]

/-- One change of the layout of a source. -/
inductive Relaid : List Char → List Char → Prop
  /-- Blank lines come in where a line starts. -/
  | blankLines (before blanks after : List Char)
      (start : ∀ c, before.getLast? = some c → c = '\n')
      (blank : ∀ c ∈ blanks, isBlank c = true) :
      Relaid (before ++ after) (before ++ blanks ++ '\n' :: after)
  /-- A line ends with a carriage return and a newline instead of a newline. -/
  | carriageReturn (before after : List Char) :
      Relaid (before ++ '\n' :: after) (before ++ '\r' :: '\n' :: after)
  /-- The last line gets a newline. -/
  | finalNewline (source : List Char) : Relaid source (source ++ ['\n'])
  /-- Blanks come in at an end of a field. -/
  | padding (before blanks after : List Char)
      (edge : (∀ c, before.getLast? = some c → c = ',' ∨ c = '\n') ∨
        ∀ c, after.head? = some c → c = ',' ∨ c = '\n')
      (blank : ∀ c ∈ blanks, isBlank c = true) (oneLine : '\n' ∉ blanks) :
      Relaid (before ++ after) (before ++ blanks ++ after)

/-- A change of layout leaves the records as they are. -/
theorem Relaid.sameRecords {source other : List Char} (h : Relaid source other) :
    SameRecords source other := by
  cases h with
  | blankLines before blanks after start blank =>
    rw [sameRecords_iff]
    congr 1
    rcases List.eq_nil_or_concat before with rfl | ⟨before, c, rfl⟩
    · rw [List.nil_append, List.nil_append, visibleLines_append_newline,
        visibleLines_of_blank blank, List.nil_append]
    · obtain rfl : c = '\n' := start c (by simp)
      simp only [List.concat_eq_append, List.append_assoc, List.cons_append, List.nil_append,
        visibleLines_append_newline, visibleLines_of_blank blank]
  | carriageReturn before after =>
    have added : SameRecords (before ++ '\n' :: after) (before ++ ['\r'] ++ '\n' :: after) :=
      sameRecords_of_padding (by simp; decide) (by decide) (.inr (by simp))
    simpa using added
  | finalNewline =>
    have nothing : visibleLines [] = [] := rfl
    rw [sameRecords_iff, visibleLines_append_newline, nothing, List.append_nil]
  | padding before blanks after edge blank oneLine =>
    exact sameRecords_of_padding blank oneLine edge

/-- Sources that differ by changes of layout, made or taken back, have the same records. -/
theorem sameRecords_of_relaid {source other : List Char} (h : Relation.EqvGen Relaid source other) :
    SameRecords source other := by
  induction h with
  | rel source other h => exact h.sameRecords
  | refl source => exact .refl source
  | symm source other _ ih => exact ih.symm
  | trans first second third _ _ ih ih' => exact ih.trans ih'

/-- Sources that have the same records, as those that differ by changes of layout do, are analysed
to outcomes that show the same. -/
theorem layout_is_immaterial (settings : Settings) :
    (∀ source other : String, SameRecords source.toList other.toList →
      ShowTheSame (analyzeSource settings source).outcome (analyzeSource settings other).outcome) ∧
    ∀ source other : String, Relation.EqvGen Relaid source.toList other.toList →
      SameRecords source.toList other.toList ∧
        ShowTheSame (analyzeSource settings source).outcome
          (analyzeSource settings other).outcome := by
  refine ⟨fun source other => showTheSame_of_sameRecords settings, ?_⟩
  intro source other h
  have same := sameRecords_of_relaid h
  exact ⟨same, showTheSame_of_sameRecords settings same⟩

/-- A variable in records without a blank; one of them ends with a comma. -/
def tightRecords : String :=
  "-51,n,-2,1\n-11,int,-1,1\n-75,;,-1,1,\n-2,begin,-1,2\n-51,n,-2,3\n"

/-- The same records between blank lines, with blanks in front of commas and behind them. -/
def airyRecords : String :=
  "\r\n-51 , n, -2, 1\r\n-11,\tint,-1,1\n  \n-75,;,-1,1, \n\n-2,begin ,-1,2\r\n -51,n,-2,3"

/-- The blank behind the last comma makes a field more, and the record is the same. So is the fault
of a record that is cut off, with a newline behind it and without. -/
theorem showTheSame_airyRecords :
    (Record.fields "-75,;,-1,1,".toList).length = 4 ∧
      (Record.fields "-75,;,-1,1, ".toList).length = 5 ∧
      SameRecords tightRecords.toList airyRecords.toList ∧
      (analyzeSource {} airyRecords).outcome.map (·.tables.tokens) =
        .ok ["-51, n, 0, 1", "-11, int, -1, 1", "-75, ;, -1, 1", "-2, begin, -1, 2",
          "-51, n, 0, 3"] ∧
      ShowTheSame (analyzeSource {} tightRecords).outcome (analyzeSource {} airyRecords).outcome ∧
      Relation.EqvGen Relaid "-51, x".toList "-51, x\n".toList ∧
      ShowTheSame (analyzeSource {} "-51, x").outcome (analyzeSource {} "-51, x\n").outcome := by
  obtain ⟨same, relaid⟩ := layout_is_immaterial {}
  have records : SameRecords tightRecords.toList airyRecords.toList :=
    sameRecords_iff.2 (by decide +kernel)
  have ended : Relation.EqvGen Relaid "-51, x".toList "-51, x\n".toList :=
    .rel _ _ (.finalNewline "-51, x".toList)
  exact ⟨by decide +kernel, by decide +kernel, records, by decide +kernel, same _ _ records, ended,
    (relaid _ _ ended).2⟩

end Pseudocode
