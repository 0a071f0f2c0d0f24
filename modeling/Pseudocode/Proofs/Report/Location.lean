/-
  Pseudocode.Proofs.Report.Location — where a report says that a fault is.

  The number of a line is computed twice. The reader counts the lines that it goes through, blank
  ones too, and leaves the bytes of a line in the span of what it reads there. The report knows the
  file and the span only: it looks for the line that the first byte is on, and counts newlines up to
  it. Both come to what the newlines of the source say. The bytes from the start of line `k` up to,
  and with, the one behind its text are on line `k` for the report (`lineOf_eq`); a span that the
  reader made starts there and ends there, whatever carriage returns the line ends with.

  So a report stands on one line, it begins in the first column of that line, and it shows the line
  over a caret for each of its columns. The number is that of the record, and where the record is
  malformed the fault names the same one. Only a missing body has no line; its report is a note.

  Proved:
  (1) The line of a byte is the line between newlines that it lies on (`lineOf_eq`).
  (2) The excerpt of a line between newlines (`labelLines_eq`): its number, column 1, its text, a
      caret for each column.
  (3) The diagnostic of a fault of a source, and its text (`faults_reported_in_place`).
-/

import Pseudocode.Proofs.Stream.Placement
import Pseudocode.Proofs.Stream.Provenance

namespace Pseudocode

open Text

namespace Excerpt

/-! ## The line of a byte -/

/-- Among the pieces between newlines, `k` is the one whose bytes, or the place behind them, `byte`
is. The text that is found may have its newline. -/
theorem lineHolding_eq {cs piece : List Char} {byte n start k : Nat}
    (here : (cs.splitOn '\n')[k]? = some piece)
    (above : start + startOf (cs.splitOn '\n') k ≤ byte)
    (below : byte ≤ start + startOf (cs.splitOn '\n') k + byteLength piece) :
    ∃ ending, (∀ c ∈ ending, c = '\n') ∧ lineHolding byte n start (rawLines cs) =
      ⟨n + k, start + startOf (cs.splitOn '\n') k, piece ++ ending⟩ := by
  induction cs using pieces_induction generalizing n start k with
  | nil =>
    cases k with
    | zero =>
      cases here
      exact ⟨[], by simp, rfl⟩
    | succ k => cases here
  | piece raw after whole ih =>
    rw [rawLines_of_whole whole, lineHolding]
    rcases whole with ⟨body, rfl, notIn⟩ | ⟨-, notIn, rfl⟩
    · have bytes : byteLength (body ++ ['\n']) = byteLength body + 1 := byteLength_append _ _
      rw [splitOn_line notIn] at here above below ⊢
      cases k with
      | zero =>
        cases here
        rw [startOf_zero] at below
        rw [if_neg (by omega)]
        exact ⟨['\n'], by simp, rfl⟩
      | succ k =>
        -- the byte is behind this piece and its newline, so the search goes on
        rw [startOf_cons] at above below ⊢
        rw [if_pos ⟨by simp, by omega⟩]
        obtain ⟨ending, newlines, found⟩ :=
          @ih (n + 1) (start + byteLength (body ++ ['\n'])) k here (by omega) (by omega)
        refine ⟨ending, newlines, found.trans ?_⟩
        congr 1 <;> omega
    · rw [List.append_nil, List.splitOn_eq_singleton notIn] at here ⊢
      cases k with
      | zero =>
        cases here
        rw [if_neg fun last => notIn (List.mem_of_getLast? last.1)]
        exact ⟨[], by simp, by simp⟩
      | succ k => cases here

/-- For a report, a byte is on the line between newlines that has it or ends in front of it. -/
theorem lineOf_eq {source : String} {piece : List Char} {byte k : Nat}
    (here : (source.toList.splitOn '\n')[k]? = some piece)
    (above : startOf (source.toList.splitOn '\n') k ≤ byte)
    (below : byte ≤ startOf (source.toList.splitOn '\n') k + byteLength piece) :
    ∃ ending, (∀ c ∈ ending, c = '\n') ∧ lineOf source byte =
      ⟨k + 1, startOf (source.toList.splitOn '\n') k, piece ++ ending⟩ := by
  have found := @lineHolding_eq _ _ byte 1 0 k here (by omega) (by omega)
  rwa [Nat.add_comm 1 k, Nat.zero_add] at found

/-! ## The text of a line -/

/-- Columns that a text takes, from column `column` on. -/
def columns : Nat → List Char → Nat
  | _, [] => 0
  | column, c :: rest => widthAt column c + columns (column + widthAt column c) rest

/-- What a report shows of a line. -/
def visible (l : Line) : List Char := dropEndWhile isHiddenEnd l.text

/-- Carets under a line: one for each column that is shown, and one for what is not shown at its
end. -/
def carets (l : Line) : Nat :=
  columns 0 (visible l) + if byteLength (visible l) < byteLength l.text then 1 else 0

theorem expandTabs_eq_self {cs : List Char} (noTab : '\t' ∉ cs) (column : Nat) :
    expandTabs column cs = cs := by
  induction cs generalizing column with
  | nil => rfl
  | cons c cs ih =>
    rw [List.mem_cons, not_or] at noTab
    rw [expandTabs, if_neg (Ne.symm noTab.1), ih noTab.2]
    rfl

/-- Under a span that reaches from the start of a text to its end, or beyond, stand carets only. -/
theorem marks_eq {stop byte column : Nat} {cs : List Char} (within : byte + byteLength cs ≤ stop) :
    marks 0 stop byte column cs = List.replicate
      (columns column cs + if byte + byteLength cs < stop then 1 else 0) '^' := by
  induction cs generalizing byte column with
  | nil =>
    rw [marks, mark, columns, byteLength_nil, if_pos (Nat.succ_pos byte), Nat.zero_add,
      Nat.add_zero]
    split <;> rfl
  | cons c cs ih =>
    have size := c.utf8Size_pos
    rw [byteLength_cons] at within ⊢
    have caret : mark 0 stop byte (byte + c.utf8Size) = ['^'] := by
      rw [mark, if_pos (by omega), if_pos (by omega)]
    rw [marks, columns, caret, List.flatten_replicate_singleton, ih (by omega), Nat.add_assoc,
      List.replicate_append_replicate, Nat.add_assoc]

theorem charsWithin_zero (cs : List Char) : charsWithin 0 cs = 0 := by
  cases cs with
  | nil => rfl
  | cons c cs =>
    have := c.utf8Size_pos
    rw [charsWithin, if_neg (by omega)]

/-- What ends a line is not shown, with its newline or without. -/
theorem dropEndWhile_isHiddenEnd {piece ending : List Char} (newlines : ∀ c ∈ ending, c = '\n') :
    dropEndWhile isHiddenEnd (piece ++ ending) =
      dropEndWhile isHiddenEnd (dropEndWhile (· = '\r') piece) := by
  obtain ⟨returns, split, all⟩ := exists_dropEndWhile_append (fun c => decide (c = '\r')) piece
  have hidden : ∀ c ∈ returns ++ ending, isHiddenEnd c = true := by
    intro c mem
    rcases List.mem_append.1 mem with mem | mem
    · rw [of_decide_eq_true (all c mem)]
      rfl
    · rw [newlines c mem]
      rfl
  conv_lhs => rw [split, List.append_assoc, dropEndWhile_append hidden]

/-- For a report, the bytes of a line that was read, and the place behind them, are on that line,
and it shows the text that was read. -/
theorem lineOf_of_mem {source : String} {l : Line} {byte : Nat} (line : l ∈ linesOf source.toList)
    (above : l.span.start ≤ byte) (below : byte ≤ l.span.stop) :
    ∃ raw, lineOf source byte = ⟨l.number, l.start, raw⟩ ∧
      dropEndWhile isHiddenEnd raw = visible l := by
  obtain ⟨k, found⟩ := List.getElem?_of_mem line
  obtain ⟨piece, here, rfl⟩ := getElem?_linesOf_eq_some_iff.1 found
  have short := byteLength_dropEndWhile_le (· = '\r') piece
  have reach := below.trans (Nat.add_le_add_left short _)
  obtain ⟨ending, newlines, held⟩ := lineOf_eq here above reach
  exact ⟨_, held, dropEndWhile_isHiddenEnd newlines⟩

/-- A line that was read is visible to its end, unless a null character stands there. -/
theorem visible_eq_self {source : List Char} {l : Line} (line : l ∈ linesOf source)
    (oneLine : '\n' ∉ l.text) (ends : l.text.getLast? ≠ some '\x00') : visible l = l.text := by
  refine dropEndWhile_eq_self fun c last => ?_
  have noNewline : c ≠ '\n' := fun e => oneLine (e ▸ List.mem_of_getLast? last)
  have noNull : c ≠ '\x00' := fun e => ends (e ▸ last)
  have noReturn : c ≠ '\r' := by
    obtain ⟨k, found⟩ := List.getElem?_of_mem line
    obtain ⟨piece, -, rfl⟩ := getElem?_linesOf_eq_some_iff.1 found
    have nonempty : dropEndWhile (fun c => decide (c = '\r')) piece ≠ [] := by
      intro e
      simp [e] at last
    have kept := getLast_dropEndWhile nonempty
    rw [Option.mem_def, List.getLast?_eq_some_getLast nonempty] at last
    rw [Option.some.inj last] at kept
    exact of_decide_eq_false kept
  simp [isHiddenEnd, noNewline, noReturn, noNull]

theorem marks_visible (l : Line) :
    marks 0 (byteLength l.text) 0 0 (visible l) = List.replicate (carets l) '^' := by
  have short := byteLength_dropEndWhile_le isHiddenEnd l.text
  rw [marks_eq (by rw [Nat.zero_add]; exact short), Nat.zero_add]
  rfl

/-- The excerpt of a line between newlines: the file, the number of the line and column 1; the line;
carets and the message. -/
theorem labelLines_eq {source : Source} {file : Nat} {l : Line} {message : String}
    (line : l ∈ linesOf source.text.toList) (nonempty : l.span.start < l.span.stop) :
    labelLines source ⟨file, l.span, message⟩ =
      let number := toString l.number
      let margin := margin number.length
      let carets := String.ofList (List.replicate (carets l) '^')
      (number.length,
        [s!"{margin} ┌─ {source.name}:{number}:1",
         s!"{margin} │",
         s!"{number} │ {String.ofList (expandTabs 0 (visible l))}",
         s!"{margin} │ {carets} {message}"]) := by
  obtain ⟨raw, held, shown⟩ := lineOf_of_mem line (Nat.le_refl _) (Nat.le_of_lt nonempty)
  have stop : max (l.span.stop - l.start) (0 + 1) = byteLength l.text := by
    simp only [Line.span] at nonempty ⊢
    omega
  have column (place : String) :
      place ++ toString ":" ++ toString (0 + 1) = place ++ toString ":1" := by
    rw [String.append_assoc]
    rfl
  have first : l.span.start - l.start = 0 := Nat.sub_self _
  simp only [labelLines, held, first, charsWithin_zero, stop, shown, marks_visible, column]

/-! ## Notes -/

/-- A note of one line. -/
theorem noteLines_eq {note : String} (nonempty : note ≠ "") (oneLine : '\n' ∉ note.toList)
    (width : Nat) : noteLines width note = [s!"{margin width} = {note}"] := by
  have chars : note.toList ≠ [] := by rwa [Ne, String.toList_eq_nil_iff]
  have lines : textLines note = [note] := by
    rw [textLines, rawLines_of_not_mem chars oneLine, List.map_singleton]
    split
    · rename_i rest ends
      exact absurd (List.mem_reverse.1 (ends ▸ List.mem_cons_self)) oneLine
    · rename_i rest _ ends
      exact absurd (List.mem_reverse.1 (ends ▸ List.mem_cons_self)) oneLine
    · rw [String.ofList_toList]
  rw [noteLines, lines]
  rfl

/-- The note of a program line is one line, for a numeral has no newline. -/
theorem noteLines_programLine (n width : Nat) :
    noteLines width s!"program line {n}" = [s!"{margin width} = program line {n}"] := by
  have text : (s!"program line {n}").toList = "program line ".toList ++ (toString n).toList :=
    String.toList_append
  have nonempty : s!"program line {n}" ≠ "" := by
    rw [Ne, ← String.toList_eq_nil_iff, text]
    simp
  have oneLine : '\n' ∉ (s!"program line {n}").toList := by
    rw [text, List.mem_append, not_or]
    exact ⟨by decide, newline_not_mem_toString n⟩
  have split : toString " = program line " = toString " = " ++ toString "program line " := rfl
  rw [noteLines_eq nonempty oneLine, split]
  simp only [String.append_assoc]
  rfl

end Excerpt

/-! ## Reports of faults -/

namespace Fault

/-- The lines of a report on a line of the file `name`: the rule that is broken; the number of the
line and its first column; the line itself over carets and the message; and the program line of the
fault, if it has one. -/
def reportLines (f : Fault) (name : String) (l : Line) : List String :=
  let number := toString l.number
  let margin := Excerpt.margin number.length
  let carets := String.ofList (List.replicate (Excerpt.carets l) '^')
  [s!"error[{f.rule}]: {f.title}",
    s!"{margin} ┌─ {name}:{number}:1",
    s!"{margin} │",
    s!"{number} │ {String.ofList (Excerpt.expandTabs 0 (Excerpt.visible l))}",
    s!"{margin} │ {carets} {f.message}"] ++
  match f.line? with
  | none => []
  | some n => [s!"{margin} │", s!"{margin} = program line {n}"]

/-- A fault is reported on the line `l` of a file. The line is one between newlines, the fault
points at it and explains it. The diagnostic has one label, with the span of the fault, and both ends
of it are on that line for the report. A malformed record has the number of the line and no note; any
other fault has one, the program line of the identifier that the line records. The text says where
the line is and shows it: as it is, unless there are tabs in it or null characters at its end. -/
structure ReportedOn (f : Fault) (files : List Source) (file : Nat) (source : Source) (l : Line) :
    Prop where
  line : l ∈ linesOf source.text.toList
  points : f.PointsAt source.text l
  explains : f.Explains source.text l
  label : (f.diagnostic file).label? = some ⟨file, l.span, f.message⟩
  oneLine : ∀ byte, l.span.start ≤ byte → byte ≤ l.span.stop →
    (Excerpt.lineOf source.text byte).number = l.number
  notes :
    (∃ message, f = .malformedRecord l.number message l.span ∧ (f.diagnostic file).notes = []) ∨
      ∃ n, f.line? = some n ∧ (f.diagnostic file).notes = [s!"program line {n}"]
  text : f.render files file = String.join ((f.reportLines source.name l ++ [""]).map (· ++ "\n"))
  shown : '\t' ∉ l.text → l.text.getLast? ≠ some '\x00' →
    Excerpt.expandTabs 0 (Excerpt.visible l) = l.text

theorem diagnostic_of_span {f : Fault} {span : Span} (file : Nat) (here : f.span? = some span)
    (nonempty : span.start < span.stop) :
    f.diagnostic file = ⟨f.title, f.rule, some ⟨file, span, f.message⟩,
      (f.line?.map fun n => s!"program line {n}").toList⟩ := by
  have open_ : span.isEmpty = false := by simpa [Span.isEmpty] using nonempty
  have shown : f.shownSpan? = some span := by
    rw [shownSpan?, here, Option.filter_some, open_]
    rfl
  rw [diagnostic, shown]

/-- The text of a fault with the span of a line. -/
theorem render_of_span {f : Fault} {files : List Source} {file : Nat} {source : Source} {l : Line}
    (registered : files[file]? = some source) (line : l ∈ linesOf source.text.toList)
    (here : f.span? = some l.span) (nonempty : l.span.start < l.span.stop) :
    f.render files file =
      String.join ((f.reportLines source.name l ++ [""]).map (· ++ "\n")) := by
  have told := f.diagnostic_of_span file here nonempty
  have excerpt : Excerpt.bodyLines files (f.diagnostic file) =
      some ((f.reportLines source.name l).tail) := by
    rw [told, Excerpt.bodyLines]
    simp only [registered, Option.bind_eq_bind, Option.bind_some,
      Excerpt.labelLines_eq line nonempty]
    cases hn : f.line? with
    | none =>
      simp only [reportLines, hn, Option.map_none, Option.toList_none, List.isEmpty_nil, if_true]
      rfl
    | some n =>
      simp only [reportLines, hn, Option.map_some, Option.toList_some, List.isEmpty_cons,
        Bool.false_eq_true, if_false, List.flatMap_singleton, Excerpt.noteLines_programLine]
      rfl
  rw [render, Diagnostic.render, excerpt, told]
  rfl

/-- A fault that points at a line of a file, and explains it, is reported on that line. -/
theorem reportedOn_of_pointsAt {f : Fault} {files : List Source} {file : Nat} {source : Source}
    {l : Line} (registered : files[file]? = some source) (points : f.PointsAt source.text l)
    (explains : f.Explains source.text l) : f.ReportedOn files file source l := by
  have mem := mem_recordLines_iff.2 ⟨points.line, points.notBlank⟩
  rw [recordLines_eq, filledLines] at mem
  have line := List.mem_of_mem_filter mem
  have told := f.diagnostic_of_span file points.span points.nonempty
  refine ⟨line, points, explains, by rw [told], ?_, ?_,
    render_of_span registered line points.span points.nonempty, ?_⟩
  · intro byte above below
    obtain ⟨raw, held, -⟩ := Excerpt.lineOf_of_mem line above below
    rw [held]
  · rw [told]
    cases f with
    | malformedRecord record message span =>
      obtain ⟨rfl, -⟩ := explains
      cases points.span
      exact .inl ⟨message, rfl, rfl⟩
    | _ =>
      obtain ⟨t, -, -, -, here⟩ := explains
      rw [here]
      exact .inr ⟨t.line, rfl, rfl⟩
  · intro noTab ends
    rw [Excerpt.visible_eq_self line points.oneLine ends, Excerpt.expandTabs_eq_self noTab]

/-- A missing body is said in a note. -/
theorem render_missingBody (files : List Source) (file : Nat) :
    missingBody.render files file =
      "error[missing-body-marker]: Malformed token stream\n" ++
        " = token stream has no body-begin marker\n\n" := by
  have anyFile : missingBody.render files file = missingBody.render [] 0 := rfl
  rw [anyFile]
  decide +kernel

end Fault

/-- Every fault of a source is reported on the line that it comes from, and a missing body in a
note. The line that the report finds, from the bytes of the fault and the newlines of the file, is
the one that the reader was on. -/
theorem faults_reported_in_place (settings : Settings) {files : List Source} {file : Nat}
    {source : Source} (registered : files[file]? = some source) {f : Fault}
    (refused : (analyzeSource settings source.text).outcome = .error f) :
    (f ≠ .missingBody → ∃ l, f.ReportedOn files file source l) ∧
    (f = .missingBody → (f.diagnostic file).label? = none ∧
      (f.diagnostic file).notes = [f.message] ∧
      f.render files file = "error[missing-body-marker]: Malformed token stream\n" ++
        " = token stream has no body-begin marker\n\n") := by
  constructor
  · intro located
    obtain ⟨l, points, explains⟩ := pointsAt_of_analyzeSource refused located
    exact ⟨l, Fault.reportedOn_of_pointsAt registered points explains⟩
  · rintro rfl
    exact ⟨rfl, rfl, Fault.render_missingBody files file⟩

/-- A body that uses a name of two bytes, a record of two fields, and no body at all. -/
def refusedFiles : List Source :=
  [⟨"stray.txt", strayName⟩, ⟨"cut.txt", cutRecord⟩, ⟨"bare.txt", "-51, x, -2, 1\n"⟩]

/-- The unknown name is on line 3, behind an empty line, and the malformed record on line 4; a
carriage return is no part of what is shown. -/
theorem refusedFiles_reported_in_place :
    (∃ l, (Fault.undeclared ⟨"ñ", 2, ⟨18, 32⟩⟩).ReportedOn refusedFiles 0
      ⟨"stray.txt", strayName⟩ l) ∧
    (Fault.undeclared ⟨"ñ", 2, ⟨18, 32⟩⟩).render refusedFiles 0 =
      "error[undeclared-identifier]: Semantic error\n" ++
      "  ┌─ stray.txt:3:1\n" ++
      "  │\n" ++
      "3 │ -51, ñ, -2, 2\n" ++
      "  │ ^^^^^^^^^^^^^ identifier 'ñ' on line 2 has not been declared\n" ++
      "  │\n" ++
      "  = program line 2\n\n" ∧
    (∃ l, (Fault.malformedRecord 4 "expected 4 fields, found 2" ⟨20, 26⟩).ReportedOn refusedFiles 1
      ⟨"cut.txt", cutRecord⟩ l) ∧
    (Fault.missingBody.diagnostic 2).label? = none ∧
      (Fault.missingBody.diagnostic 2).notes = [Fault.missingBody.message] := by
  obtain ⟨stray, -⟩ := @faults_reported_in_place {} refusedFiles 0 _ rfl
    (.undeclared ⟨"ñ", 2, ⟨18, 32⟩⟩) (by decide +kernel)
  obtain ⟨cut, -⟩ := @faults_reported_in_place {} refusedFiles 1 _ rfl
    (.malformedRecord 4 "expected 4 fields, found 2" ⟨20, 26⟩) (by decide +kernel)
  obtain ⟨-, bare⟩ := @faults_reported_in_place {} refusedFiles 2 _ rfl .missingBody
    (by decide +kernel)
  exact ⟨stray (by decide), by decide +kernel, cut (by decide), (bare rfl).1, (bare rfl).2.1⟩

end Pseudocode
