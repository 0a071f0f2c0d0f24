/-
  Pseudocode.Proofs.Stream.Placement — where the records of a source stand.

  Reading goes through a source piece by piece. It carries an offset and a number along, adds the
  bytes of each piece with its newline, and takes the span of a line without them; a blank line
  gives no token but is counted in both. What comes of it does not depend on the way there. Line `k`
  is what stands between two newlines, without the carriage returns at its end; its number is `k`;
  it starts behind as many bytes as the lines in front of it have with their newlines
  (`linesOf`). A last newline leaves an empty piece behind it, which is blank.

  So a token lies where its line does. The bytes of its span are the text of the line and no more,
  both ends are ends of characters, and between two tokens there is at least the newline that parts
  their lines.

  Proved:
  (1) The lines that are read are the lines between the newlines that are not blank
      (`recordLines_eq`).
  (2) They follow each other with a gap (`linesOf_apart`), and the span of each cuts its text out
      of the source (`cuts_of_isLineOf`).
  (3) Reading gives one token for each of them, in order and in place, or the fault of the first one
      that is no record (`records_in_place`).
-/

import Pseudocode.Proofs.Stream.Reading
import Pseudocode.Proofs.Stream.Records

namespace Pseudocode

open Text

/-! ## Lines between newlines -/

/-- Bytes in front of piece `k`: those of the pieces before it and of their newlines. -/
def startOf (pieces : List (List Char)) (k : Nat) : Nat :=
  byteLength ((pieces.take k).flatMap (· ++ ['\n']))

/-- The lines between the newlines of a source: each with its number from 1, with the offset of its
first byte, and without the carriage returns at its end. -/
def linesOf (source : List Char) : List Line :=
  (source.splitOn '\n').mapIdx fun k piece =>
    ⟨k + 1, startOf (source.splitOn '\n') k, dropEndWhile (· = '\r') piece⟩

/-- The lines of a source that may hold a record: those that are not blank. -/
def filledLines (source : String) : List Line := (linesOf source.toList).filter (!·.isBlank)

section StartOf

variable (pieces : List (List Char))

@[simp] theorem startOf_zero : startOf pieces 0 = 0 := rfl

/-- A newline takes one byte. -/
theorem startOf_cons (piece : List Char) (k : Nat) :
    startOf (piece :: pieces) (k + 1) = byteLength piece + 1 + startOf pieces k := by
  rw [startOf, List.take_succ_cons, List.flatMap_cons, byteLength_append, byteLength_append]
  rfl

theorem startOf_succ {k : Nat} {piece : List Char} (h : pieces[k]? = some piece) :
    startOf pieces (k + 1) = startOf pieces k + byteLength piece + 1 := by
  rw [startOf, List.take_add_one, h, List.flatMap_append, byteLength_append, startOf,
    Nat.add_assoc]
  simp [show '\n'.utf8Size = 1 from rfl]

theorem startOf_le {j k : Nat} (le : j ≤ k) : startOf pieces j ≤ startOf pieces k := by
  induction le with
  | refl => exact Nat.le_refl _
  | @step k _ ih =>
    have : startOf pieces k ≤ startOf pieces (k + 1) := by
      rw [startOf, startOf, List.take_add_one, List.flatMap_append, byteLength_append]
      exact Nat.le_add_right _ _
    exact Nat.le_trans ih this

end StartOf

/-- A newline parts the piece in front of it from the pieces behind. -/
theorem splitOn_line {body : List Char} (notIn : '\n' ∉ body) (after : List Char) :
    (body ++ ['\n'] ++ after).splitOn '\n' = body :: after.splitOn '\n' := by
  rw [List.append_assoc, List.singleton_append, List.splitOn_append_cons_self_of_not_mem notIn]

/-- The pieces that reading places are the pieces between the newlines, but for blank ones. -/
theorem filter_place_eq (cs : List Char) (n start : Nat) :
    (Line.place n start (rawLines cs)).filter (!·.isBlank) =
      ((cs.splitOn '\n').mapIdx fun k piece =>
        (⟨n + k, start + startOf (cs.splitOn '\n') k, dropEndWhile (· = '\r') piece⟩ : Line)).filter
          (!·.isBlank) := by
  induction cs using pieces_induction generalizing n start with
  | nil => rfl
  | piece raw after whole ih =>
    rw [rawLines_of_whole whole, Line.place]
    rcases whole with ⟨body, rfl, notIn⟩ | ⟨-, notIn, rfl⟩
    · have text : withoutEnd (body ++ ['\n']) = dropEndWhile (· = '\r') body := by
        rw [← withoutEnd_of_not_mem notIn, withoutEnd, withoutEnd, dropEndWhile_append]
        intro c hc
        rw [List.mem_singleton.1 hc]
        exact isLineEnd_newline
      -- the rest starts one line later, behind this piece and its newline
      have later : (fun k piece => (⟨n + 1 + k, start + byteLength (body ++ ['\n']) +
            startOf (after.splitOn '\n') k, dropEndWhile (· = '\r') piece⟩ : Line)) =
          fun k piece => ⟨n + (k + 1), start + startOf (body :: after.splitOn '\n') (k + 1),
            dropEndWhile (· = '\r') piece⟩ := by
        funext k piece
        rw [startOf_cons, byteLength_append]
        congr 1
        · omega
        · show start + (byteLength body + 1) + _ = _
          omega
      rw [splitOn_line notIn, List.mapIdx_cons, List.filter_cons, List.filter_cons, ih, later, text]
      rfl
    · -- nothing parts the last piece, and there is no empty one behind it
      rw [List.append_nil, List.splitOn_eq_singleton notIn, List.mapIdx_singleton,
        withoutEnd_of_not_mem notIn]
      rfl

/-- The lines that records are read from are the lines between the newlines that are not blank. -/
theorem recordLines_eq (source : String) : recordLines source = filledLines source := by
  unfold recordLines filledLines linesOf Line.ofSource
  rw [filter_place_eq]
  congr 2
  funext k piece
  rw [Nat.add_comm, Nat.zero_add]

theorem getElem?_linesOf_eq_some_iff {source : List Char} {k : Nat} {l : Line} :
    (linesOf source)[k]? = some l ↔ ∃ piece, (source.splitOn '\n')[k]? = some piece ∧
      l = ⟨k + 1, startOf (source.splitOn '\n') k, dropEndWhile (· = '\r') piece⟩ := by
  rw [linesOf, List.getElem?_mapIdx, Option.map_eq_some_iff]
  simp only [eq_comm]

theorem byteLength_dropEndWhile_le (p : Char → Bool) (cs : List Char) :
    byteLength (dropEndWhile p cs) ≤ byteLength cs := by
  obtain ⟨ending, split, -⟩ := exists_dropEndWhile_append p cs
  have := congrArg byteLength split
  rw [byteLength_append] at this
  omega

/-- A newline at least stands between two lines. -/
theorem linesOf_apart (source : List Char) :
    (linesOf source).Pairwise (·.span.stop < ·.span.start) := by
  refine List.pairwise_iff_getElem.2 ?_
  intro i j hi hj lt
  obtain ⟨piece, hp, here⟩ := getElem?_linesOf_eq_some_iff.1 (List.getElem?_eq_getElem hi)
  obtain ⟨other, -, there⟩ := getElem?_linesOf_eq_some_iff.1 (List.getElem?_eq_getElem hj)
  have next := startOf_succ _ hp
  have reach := startOf_le (source.splitOn '\n') (show i + 1 ≤ j by omega)
  have short := byteLength_dropEndWhile_le (· = '\r') piece
  rw [here, there]
  show startOf _ i + byteLength (dropEndWhile (· = '\r') piece) < startOf _ j
  omega

/-! ## Spans -/

/-- A span cuts a text out of a source: it has a byte, it is in the source, both its ends are ends
of characters, and its bytes are those of the text. -/
structure Span.Cuts (span : Span) (source : String) (text : List Char) : Prop where
  nonempty : span.start < span.stop
  inside : span.stop ≤ source.utf8ByteSize
  start : String.Pos.Raw.IsValid source ⟨span.start⟩
  stop : String.Pos.Raw.IsValid source ⟨span.stop⟩
  bytes : source.toByteArray.extract span.start span.stop = (String.ofList text).toByteArray

theorem isValid_byteLength {source : String} {before after : List Char}
    (split : source.toList = before ++ after) :
    String.Pos.Raw.IsValid source ⟨byteLength before⟩ := by
  refine String.Pos.Raw.isValid_iff_exists_append.2
    ⟨String.ofList before, String.ofList after, ?_, ?_⟩
  · rw [← String.ofList_append, ← split, String.ofList_toList]
  · rw [byteLength_eq]
    rfl

theorem extract_byteLength {source : String} {before text after : List Char}
    (split : source.toList = before ++ text ++ after) :
    source.toByteArray.extract (byteLength before) (byteLength (before ++ text)) =
      (String.ofList text).toByteArray := by
  have joined : source =
      String.ofList before ++ (String.ofList text ++ String.ofList after) := by
    rw [← String.ofList_append, ← String.ofList_append, ← List.append_assoc, ← split,
      String.ofList_toList]
  have size (cs : List Char) : byteLength cs = (String.ofList cs).toByteArray.size := by
    rw [byteLength_eq, String.size_toByteArray]
  rw [joined, String.toByteArray_append, String.toByteArray_append, byteLength_append, size before,
    size text, ByteArray.extract_append, Nat.sub_self, Nat.add_sub_cancel_left,
    ByteArray.extract_append_eq_left rfl,
    ByteArray.extract_eq_empty_iff.2 (Nat.min_le_right _ _), ByteArray.empty_append]

/-- The span of a line that is not blank cuts its text out of the source. -/
theorem cuts_of_isLineOf {source : String} {l : Line} (line : l.IsLineOf source.toList)
    (notBlank : l.isBlank = false) : l.span.Cuts source l.text := by
  have nonempty := Line.start_lt_stop notBlank
  have inside := Line.stop_le_of_isLineOf line
  obtain ⟨before, rest, split, bytes, -⟩ := exists_parts_of_isLineOf line
  rw [bytes] at nonempty inside ⊢
  exact ⟨nonempty, inside, isValid_byteLength (split.trans (List.append_assoc _ _ _)),
    isValid_byteLength split, extract_byteLength split⟩

/-! ## Reading -/

theorem exists_forall₂_iff {α β : Type} {R : α → β → Prop} {l : List α} :
    (∃ bs, List.Forall₂ R l bs) ↔ ∀ a ∈ l, ∃ b, R a b := by
  induction l with
  | nil => simp
  | cons a l ih =>
    rw [List.forall_mem_cons, ← ih]
    constructor
    · rintro ⟨bs, h⟩
      cases h with
      | cons here more => exact ⟨⟨_, here⟩, _, more⟩
    · rintro ⟨⟨b, here⟩, bs, more⟩
      exact ⟨b :: bs, .cons here more⟩

/-- Reading a source makes one token of each line between its newlines that is not blank, in order.
It succeeds when each of those lines is a record by itself, under the line's own number and span,
and fails with what is wrong with the first one that is not. The token of a line lies where the
line does: its span cuts the text of the line out of the source, and the spans follow each other
with a gap. -/
theorem records_in_place (source : String) :
    (∀ tokens, (readTokens source).outcome = .ok tokens ↔
      List.Forall₂ (fun l t => readRecord l.number l.span l.text = .ok t) (filledLines source)
        tokens) ∧
    ((∃ tokens, (readTokens source).outcome = .ok tokens) ↔
      ∀ l ∈ filledLines source, ∃ t, readRecord l.number l.span l.text = .ok t) ∧
    (∀ fault, (readTokens source).outcome = .error fault ↔
      ∃ before l after, filledLines source = before ++ l :: after ∧
        readRecord l.number l.span l.text = .error fault ∧
        ∀ earlier ∈ before, ∃ t, readRecord earlier.number earlier.span earlier.text = .ok t) ∧
    ∀ tokens, (readTokens source).outcome = .ok tokens →
      List.Forall₂ (fun l t => t.span = l.span ∧ t.span.Cuts source l.text) (filledLines source)
        tokens ∧
      tokens.Pairwise (·.span.stop < ·.span.start) := by
  have read (tokens : List Token) : (readTokens source).outcome = .ok tokens ↔
      List.Forall₂ (fun l t => readRecord l.number l.span l.text = .ok t) (filledLines source)
        tokens := by
    rw [outcome_readTokens, recordLines_eq, mapM_eq_ok_iff]
    rfl
  refine ⟨read, ?_, ?_, ?_⟩
  · simp only [read]
    exact exists_forall₂_iff
  · intro fault
    rw [outcome_readTokens, recordLines_eq, mapM_eq_error_iff]
    rfl
  · intro tokens h
    have inSource : ∀ l ∈ filledLines source, l.IsLineOf source.toList ∧ l.isBlank = false := by
      intro l mem
      rw [← recordLines_eq] at mem
      exact mem_recordLines_iff.1 mem
    have placed : List.Forall₂ (fun l t => t.span = l.span ∧ t.span.Cuts source l.text)
        (filledLines source) tokens := by
      refine ((List.forall₂_and_left _ _).2 ⟨inSource, (read tokens).1 h⟩).imp ?_
      rintro l t ⟨⟨line, notBlank⟩, accepted⟩
      have span := (Record.span_of_parse (readRecord_eq_ok_iff.1 accepted)).1
      exact ⟨span, span ▸ cuts_of_isLineOf line notBlank⟩
    have spans : (filledLines source).map Line.span = tokens.map Token.span := by
      rw [← List.forall₂_eq_eq_eq, List.forall₂_map_left_iff, List.forall₂_map_right_iff]
      exact placed.imp fun l t same => same.1.symm
    have apart : ((filledLines source).map Line.span).Pairwise (·.stop < ·.start) :=
      List.pairwise_map.2 ((linesOf_apart source.toList).filter _)
    rw [spans] at apart
    exact ⟨placed, List.pairwise_map.1 apart⟩

/-- A name of two bytes before two carriage returns, a line of blanks, an empty line, and a last
line without a newline. -/
def gappedRecords : String := "-51, ñ, -2, 1\r\r\n \n\n-2, begin, -1, 3"

def gappedLines : List Line :=
  [⟨1, 0, "-51, ñ, -2, 1".toList⟩, ⟨4, 20, "-2, begin, -1, 3".toList⟩]

def gappedTokens : List Token :=
  [⟨.intId, "ñ", 1, -2, none, ⟨0, 14⟩⟩, ⟨.beginKw, "begin", 3, -1, none, ⟨20, 36⟩⟩]

/-- The span of the name leaves its carriage returns out; the last record is on line 4. -/
theorem gappedRecords_in_place :
    (readTokens gappedRecords).outcome = .ok gappedTokens ∧
    List.Forall₂ (fun l t => t.span = l.span ∧ t.span.Cuts gappedRecords l.text) gappedLines
      gappedTokens ∧
    gappedTokens.Pairwise (·.span.stop < ·.span.start) := by
  have read : (readTokens gappedRecords).outcome = .ok gappedTokens := by decide +kernel
  have lines : filledLines gappedRecords = gappedLines := by decide +kernel
  have placed := (records_in_place gappedRecords).2.2.2 _ read
  rw [lines] at placed
  exact ⟨read, placed⟩

end Pseudocode
