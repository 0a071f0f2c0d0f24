/-
  Pseudocode.Proofs.Stream.Reading — where the lines of a source stand, and what is read from them.

  A source is cut behind every newline. What lies in front of a cut is `Closed`: a sequence of
  pieces, each ended by its newline. A piece is `Whole` when it reaches from one cut to the next, or
  to the end of the source. So what stands around a line tells where it is: `Line.Stands` says that
  a whole piece lies between a closed beginning and the rest, and that the line has the piece's
  number, offset and text.

  Proved:
  (1) Cutting follows the newlines (`rawLines_append_newline`, `rawLines_append_of_closed`).
  (2) The lines of a source are those that stand in it (`mem_ofSource_iff`), in the order of their
      numbers (`numbers_increase`); the span of a line holds its bytes, and no newline is among
      them (`exists_parts_of_isLineOf`).
  (3) Reading gives one token for each line that is not blank, or the fault of the first one that
      holds no record (`outcome_readTokens_eq_ok_iff`, `outcome_readTokens_eq_error_iff`). So
      tokens and lines that are not blank belong together (`exists_line_of_token`,
      `exists_token_of_line`).
-/

import Pseudocode.Stream.Reader
import Mathlib.Data.List.Forall2
import Mathlib.Data.List.Basic

namespace Pseudocode

open Text

/-! ## Cutting a text -/

/-- A text in which a newline ends every piece. -/
inductive Closed : List Char → Prop
  | nil : Closed []
  | line (body rest : List Char) : '\n' ∉ body → Closed rest → Closed (body ++ '\n' :: rest)

/-- A piece between two cuts; `after` is what follows it. -/
def Whole (raw after : List Char) : Prop :=
  (∃ body, raw = body ++ ['\n'] ∧ '\n' ∉ body) ∨ (raw ≠ [] ∧ '\n' ∉ raw ∧ after = [])

theorem Closed.concat {before : List Char} (h : Closed before) {body : List Char}
    (notIn : '\n' ∉ body) : Closed (before ++ (body ++ ['\n'])) := by
  induction h with
  | nil => exact .line body [] notIn .nil
  | line first rest firstNotIn _ ih =>
    rw [List.append_assoc, List.cons_append]
    exact .line first _ firstNotIn ih

namespace Text

theorem rawLines_append_newline {body : List Char} (h : '\n' ∉ body) (rest : List Char) :
    rawLines (body ++ '\n' :: rest) = (body ++ ['\n']) :: rawLines rest := by
  induction body with
  | nil => simp [rawLines]
  | cons c body ih =>
    rw [List.mem_cons, not_or] at h
    rw [List.cons_append, rawLines, if_neg (Ne.symm h.1), ih h.2]
    rfl

theorem rawLines_of_not_mem {cs : List Char} (ne : cs ≠ []) (h : '\n' ∉ cs) :
    rawLines cs = [cs] := by
  induction cs with
  | nil => exact absurd rfl ne
  | cons c cs ih =>
    rw [List.mem_cons, not_or] at h
    rw [rawLines, if_neg (Ne.symm h.1)]
    by_cases e : cs = []
    · rw [e]
      rfl
    · rw [ih e h.2]

theorem rawLines_of_whole {raw after : List Char} (h : Whole raw after) :
    rawLines (raw ++ after) = raw :: rawLines after := by
  rcases h with ⟨body, rfl, notIn⟩ | ⟨ne, notIn, rfl⟩
  · rw [List.append_assoc]
    exact rawLines_append_newline notIn after
  · rw [List.append_nil]
    exact rawLines_of_not_mem ne notIn

/-- A text is cut at the end of every closed beginning. -/
theorem rawLines_append_of_closed {before : List Char} (h : Closed before) (cs : List Char) :
    rawLines (before ++ cs) = rawLines before ++ rawLines cs := by
  induction h with
  | nil => rfl
  | line body rest notIn _ ih =>
    rw [List.append_assoc, List.cons_append, rawLines_append_newline notIn,
      rawLines_append_newline notIn, ih, List.cons_append]

theorem length_rawLines_of_closed {before : List Char} (h : Closed before) :
    (rawLines before).length = before.count '\n' := by
  induction h with
  | nil => rfl
  | line body rest notIn _ ih =>
    rw [rawLines_append_newline notIn, List.length_cons, ih, List.count_append,
      List.count_eq_zero_of_not_mem notIn, List.count_cons_self, Nat.zero_add]

/-- A text is empty, or it is a whole piece and the rest. -/
theorem pieces_induction {P : List Char → Prop} (nil : P [])
    (piece : ∀ raw after, Whole raw after → P after → P (raw ++ after)) (cs : List Char) :
    P cs := by
  induction hn : cs.length using Nat.strongRecOn generalizing cs with
  | ind n ih =>
    by_cases h : '\n' ∈ cs
    · obtain ⟨body, rest, rfl, notIn⟩ := List.eq_append_cons_of_mem h
      rw [List.length_append, List.length_cons] at hn
      have := piece (body ++ ['\n']) rest (.inl ⟨body, rfl, notIn⟩)
        (ih rest.length (by omega) rest rfl)
      rwa [List.append_assoc] at this
    · by_cases e : cs = []
      · rw [e]
        exact nil
      · rw [← List.append_nil cs]
        exact piece cs [] (.inr ⟨e, h, rfl⟩) nil

theorem byteLength_eq (cs : List Char) : byteLength cs = (String.ofList cs).utf8ByteSize := by
  induction cs with
  | nil => rfl
  | cons c cs ih =>
    have : String.ofList (c :: cs) = String.singleton c ++ String.ofList cs := by
      rw [← List.singleton_append, String.ofList_append]
      rfl
    rw [byteLength_cons, ih, this, String.utf8ByteSize_append, String.utf8ByteSize_singleton]

end Text

/-! ## The lines of a source -/

/-- The line that the piece `raw` makes when `before` stands in front of it and `after` behind. -/
structure Line.Stands (l : Line) (before raw after : List Char) : Prop where
  closed : Closed before
  whole : Whole raw after
  number : l.number = before.count '\n' + 1
  start : l.start = byteLength before
  text : l.text = withoutEnd raw

/-- `l` is a line of a source. -/
def Line.IsLineOf (l : Line) (source : List Char) : Prop :=
  ∃ before raw after, source = before ++ raw ++ after ∧ l.Stands before raw after

section Place

theorem place_append (n start : Nat) (first second : List (List Char)) :
    Line.place n start (first ++ second) =
      Line.place n start first ++
        Line.place (n + first.length) (start + byteLength first.flatten) second := by
  induction first generalizing n start with
  | nil => rfl
  | cons raw first ih =>
    rw [List.cons_append, Line.place, Line.place, ih, List.flatten_cons, byteLength_append,
      List.length_cons, List.cons_append, Nat.add_assoc start, Nat.add_assoc n,
      Nat.add_comm 1 first.length]

theorem isLineOf_of_mem_place {before : List Char} (closed : Closed before) (cs : List Char)
    {l : Line}
    (h : l ∈ Line.place (before.count '\n' + 1) (byteLength before) (rawLines cs)) :
    l.IsLineOf (before ++ cs) := by
  induction cs using pieces_induction generalizing before with
  | nil => cases h
  | piece raw after whole ih =>
    rw [rawLines_of_whole whole, Line.place] at h
    rcases List.mem_cons.1 h with rfl | h
    · refine ⟨before, raw, after, ?_, closed, whole, rfl, rfl, rfl⟩
      rw [List.append_assoc]
    · rcases whole with ⟨body, rfl, notIn⟩ | ⟨-, -, rfl⟩
      · have here : (before ++ (body ++ ['\n'])).count '\n' = before.count '\n' + 1 := by
          rw [List.count_append, List.count_append, List.count_eq_zero_of_not_mem notIn]
          rfl
        rw [← byteLength_append, ← here] at h
        have := ih (closed.concat notIn) h
        rwa [List.append_assoc] at this
      · cases h

/-- The lines of a source are those that stand in it. -/
theorem mem_ofSource_iff {source : List Char} {l : Line} :
    l ∈ Line.ofSource source ↔ l.IsLineOf source := by
  constructor
  · intro h
    exact isLineOf_of_mem_place .nil source h
  · rintro ⟨before, raw, after, rfl, stands⟩
    have cut : rawLines (before ++ raw ++ after) = rawLines before ++ raw :: rawLines after := by
      rw [List.append_assoc, rawLines_append_of_closed stands.closed,
        rawLines_of_whole stands.whole]
    have here : l = ⟨1 + (rawLines before).length, 0 + byteLength (rawLines before).flatten,
        withoutEnd raw⟩ := by
      rw [length_rawLines_of_closed stands.closed, flatten_rawLines, Nat.add_comm, Nat.zero_add,
        ← stands.number, ← stands.start, ← stands.text]
    unfold Line.ofSource
    rw [cut, place_append, Line.place, ← here]
    exact List.mem_append_right _ List.mem_cons_self

theorem le_number_of_mem_place {n start : Nat} {raws : List (List Char)} {l : Line}
    (h : l ∈ Line.place n start raws) : n ≤ l.number := by
  induction raws generalizing n start with
  | nil => cases h
  | cons raw raws ih =>
    rcases List.mem_cons.1 h with rfl | h
    · exact Nat.le_refl n
    · have := ih h
      omega

theorem numbers_increase (source : List Char) :
    (Line.ofSource source).Pairwise (·.number < ·.number) := by
  have all (n start : Nat) (raws : List (List Char)) :
      (Line.place n start raws).Pairwise (·.number < ·.number) := by
    induction raws generalizing n start with
    | nil => exact .nil
    | cons raw raws ih =>
      refine .cons ?_ (ih _ _)
      intro l h
      exact le_number_of_mem_place h
  exact all 1 0 (rawLines source)

end Place

theorem isLineEnd_newline : isLineEnd '\n' = true := rfl

/-- A text without newlines loses only carriage returns at its end. -/
theorem withoutEnd_of_not_mem {body : List Char} (h : '\n' ∉ body) :
    withoutEnd body = dropEndWhile (· = '\r') body := by
  have same : ∀ c ∈ body, isLineEnd c = decide (c = '\r') := by
    intro c mem
    have other : c ≠ '\n' := fun e => h (e ▸ mem)
    simp [isLineEnd, other]
  unfold withoutEnd
  induction body with
  | nil => rfl
  | cons c body ih =>
    rw [List.mem_cons, not_or] at h
    have later := ih h.2 fun d mem => same d (List.mem_cons_of_mem c mem)
    rw [dropEndWhile_cons, dropEndWhile_cons, later, same c List.mem_cons_self]

/-- The text of a line is a piece of its source without a newline, and its span holds the bytes of
that piece. -/
theorem exists_parts_of_isLineOf {source : List Char} {l : Line} (h : l.IsLineOf source) :
    ∃ before rest, source = before ++ l.text ++ rest ∧
      l.span = ⟨byteLength before, byteLength (before ++ l.text)⟩ ∧ '\n' ∉ l.text := by
  obtain ⟨before, raw, after, rfl, stands⟩ := h
  obtain ⟨ending, split, -⟩ := exists_dropEndWhile_append isLineEnd raw
  refine ⟨before, ending ++ after, ?_, ?_, ?_⟩
  · have tail : raw ++ after = dropEndWhile isLineEnd raw ++ (ending ++ after) := by
      rw [← List.append_assoc, ← split]
    rw [stands.text, withoutEnd, List.append_assoc, List.append_assoc, tail]
  · rw [Line.span, stands.start, byteLength_append]
  · rw [stands.text, withoutEnd]
    -- what is left of a piece is the beginning of its body
    obtain ⟨body, notIn, same⟩ : ∃ body, '\n' ∉ body ∧
        dropEndWhile isLineEnd raw = dropEndWhile isLineEnd body := by
      rcases stands.whole with ⟨body, rfl, notIn⟩ | ⟨-, notIn, -⟩
      · refine ⟨body, notIn, dropEndWhile_append ?_ body⟩
        intro c hc
        rw [List.mem_singleton.1 hc]
        exact isLineEnd_newline
      · exact ⟨raw, notIn, rfl⟩
    obtain ⟨rest, cut, -⟩ := exists_dropEndWhile_append isLineEnd body
    rw [same]
    intro inText
    apply notIn
    rw [cut]
    exact List.mem_append_left _ inText

theorem byteLength_toList (source : String) : byteLength source.toList = source.utf8ByteSize := by
  rw [byteLength_eq, String.ofList_toList]

/-- A line that is not blank has a byte. -/
theorem Line.start_lt_stop {l : Line} (notBlank : l.isBlank = false) :
    l.span.start < l.span.stop := by
  cases text : l.text with
  | nil =>
    rw [Line.isBlank, text] at notBlank
    cases notBlank
  | cons c more =>
    have := c.utf8Size_pos
    rw [Line.span, text, byteLength_cons]
    show l.start < l.start + (c.utf8Size + byteLength more)
    omega

/-- The bytes of a line are bytes of its source. -/
theorem Line.stop_le_of_isLineOf {source : String} {l : Line} (h : l.IsLineOf source.toList) :
    l.span.stop ≤ source.utf8ByteSize := by
  obtain ⟨before, rest, split, bytes, -⟩ := exists_parts_of_isLineOf h
  rw [← byteLength_toList, split, bytes, byteLength_append _ rest]
  exact Nat.le_add_right _ _

/-! ## Reading the lines -/

section Traverse

variable {α β ε : Type} {f : α → Except ε β}

theorem mapM_eq_ok_iff {l : List α} {bs : List β} :
    l.mapM f = .ok bs ↔ List.Forall₂ (fun a b => f a = .ok b) l bs := by
  induction l generalizing bs with
  | nil =>
    constructor
    · intro h
      cases h
      exact .nil
    · intro h
      cases h
      rfl
  | cons a l ih =>
    rw [List.mapM_cons]
    cases ha : f a with
    | error e =>
      constructor
      · intro h
        cases h
      · intro h
        cases h with
        | cons here _ => cases ha.symm.trans here
    | ok b =>
      constructor
      · intro h
        cases hl : l.mapM f with
        | error e =>
          rw [hl] at h
          cases h
        | ok rest =>
          rw [hl] at h
          cases h
          exact .cons ha (ih.1 hl)
      · intro h
        cases h with
        | cons here more =>
          rw [ih.2 more]
          cases ha.symm.trans here
          rfl

/-- A traversal ends with the error of the first member that has one. -/
theorem mapM_eq_error_iff {l : List α} {e : ε} :
    l.mapM f = .error e ↔ ∃ before a after, l = before ++ a :: after ∧ f a = .error e ∧
      ∀ x ∈ before, ∃ b, f x = .ok b := by
  induction l with
  | nil =>
    constructor
    · intro h
      cases h
    · rintro ⟨before, a, after, eq, -⟩
      cases before <;> cases eq
  | cons a l ih =>
    rw [List.mapM_cons]
    cases ha : f a with
    | error e' =>
      constructor
      · intro h
        cases h
        exact ⟨[], a, l, rfl, ha, by simp⟩
      · rintro ⟨before, x, after, eq, hx, ok⟩
        cases before with
        | nil =>
          cases eq
          cases ha.symm.trans hx
          rfl
        | cons y before =>
          cases eq
          obtain ⟨b, hb⟩ := ok _ List.mem_cons_self
          cases ha.symm.trans hb
    | ok b =>
      have tail : ((Except.ok b : Except ε β) >>= fun x => l.mapM f >>= fun rest =>
          pure (x :: rest)) = .error e ↔ l.mapM f = .error e := by
        cases l.mapM f with
        | error e' => exact Iff.rfl
        | ok rest => exact ⟨fun h => (nomatch h), fun h => (nomatch h)⟩
      rw [tail, ih]
      constructor
      · rintro ⟨before, x, after, rfl, hx, ok⟩
        refine ⟨a :: before, x, after, rfl, hx, ?_⟩
        intro y hy
        rcases List.mem_cons.1 hy with rfl | hy
        · exact ⟨b, ha⟩
        · exact ok y hy
      · rintro ⟨before, x, after, eq, hx, ok⟩
        cases before with
        | nil =>
          cases eq
          cases ha.symm.trans hx
        | cons y before =>
          cases eq
          exact ⟨before, x, after, rfl, hx, fun z hz => ok z (List.mem_cons_of_mem _ hz)⟩

end Traverse

/-- The lines of a source that are not blank. -/
def recordLines (source : String) : List Line :=
  (Line.ofSource source.toList).filter (!·.isBlank)

theorem mem_recordLines_iff {source : String} {l : Line} :
    l ∈ recordLines source ↔ l.IsLineOf source.toList ∧ l.isBlank = false := by
  rw [recordLines, List.mem_filter, mem_ofSource_iff, Bool.not_eq_true']

theorem outcome_readTokens (source : String) :
    (readTokens source).outcome = (recordLines source).mapM Line.token := by
  unfold readTokens
  rw [Traced.outcome_bind, Traced.outcome_lift, recordLines]
  cases ((Line.ofSource source.toList).filter (!·.isBlank)).mapM Line.token <;> rfl

section ReadRecord

variable {number : Nat} {span : Span} {text : List Char}

theorem readRecord_eq_ok_iff {t : Token} :
    readRecord number span text = .ok t ↔ Record.parse span text = .ok t := by
  unfold readRecord
  cases Record.parse span text <;> simp

theorem readRecord_eq_error_iff {fault : Fault} :
    readRecord number span text = .error fault ↔
      ∃ cause, Record.parse span text = .error cause ∧
        fault = .malformedRecord number cause.message span := by
  unfold readRecord
  cases Record.parse span text <;> simp [eq_comm]

end ReadRecord

theorem token_eq_ok_iff {l : Line} {t : Token} :
    l.token = .ok t ↔ Record.parse l.span l.text = .ok t := readRecord_eq_ok_iff

theorem token_eq_error_iff {l : Line} {fault : Fault} :
    l.token = .error fault ↔ ∃ cause, Record.parse l.span l.text = .error cause ∧
      fault = .malformedRecord l.number cause.message l.span := readRecord_eq_error_iff

/-- Reading gives the tokens of the lines that are not blank, in order. -/
theorem outcome_readTokens_eq_ok_iff {source : String} {tokens : List Token} :
    (readTokens source).outcome = .ok tokens ↔
      List.Forall₂ (fun l t => Record.parse l.span l.text = .ok t) (recordLines source) tokens := by
  rw [outcome_readTokens, mapM_eq_ok_iff]
  simp only [token_eq_ok_iff]

section Read

variable {source : String} {tokens : List Token} (h : (readTokens source).outcome = .ok tokens)

include h

/-- Every token that was read is recorded on a line that is not blank. -/
theorem exists_line_of_token {i : Nat} {t : Token} (ht : tokens[i]? = some t) :
    ∃ l ∈ recordLines source, Record.parse l.span l.text = .ok t := by
  have read := outcome_readTokens_eq_ok_iff.1 h
  obtain ⟨lt, here⟩ := List.getElem?_eq_some_iff.1 ht
  have lt' : i < (recordLines source).length := by
    rw [read.length_eq]
    exact lt
  refine ⟨(recordLines source)[i], List.getElem_mem lt', ?_⟩
  rw [← here]
  exact List.forall₂_iff_get.1 read |>.2 i lt' lt

/-- The token that a line records was read. -/
theorem exists_token_of_line {l : Line} (mem : l ∈ recordLines source) :
    ∃ t ∈ tokens, Record.parse l.span l.text = .ok t := by
  have read := outcome_readTokens_eq_ok_iff.1 h
  obtain ⟨i, lt, rfl⟩ := List.getElem_of_mem mem
  have lt' : i < tokens.length := by
    rw [← read.length_eq]
    exact lt
  exact ⟨tokens[i], List.getElem_mem lt', List.forall₂_iff_get.1 read |>.2 i lt lt'⟩

end Read

/-- Reading fails at the first line that is neither blank nor a record. -/
theorem outcome_readTokens_eq_error_iff {source : String} {fault : Fault} :
    (readTokens source).outcome = .error fault ↔
      ∃ l ∈ recordLines source,
        (∃ cause, Record.parse l.span l.text = .error cause ∧
          fault = .malformedRecord l.number cause.message l.span) ∧
        ∀ earlier ∈ recordLines source, earlier.number < l.number →
          ∃ t, Record.parse earlier.span earlier.text = .ok t := by
  have ordered : (recordLines source).Pairwise (·.number < ·.number) :=
    (numbers_increase source.toList).filter _
  rw [outcome_readTokens, mapM_eq_error_iff]
  simp only [token_eq_error_iff, token_eq_ok_iff]
  constructor
  · rintro ⟨before, l, after, split, rejected, accepted⟩
    rw [split, List.pairwise_append, List.pairwise_cons] at ordered
    obtain ⟨-, ⟨later, -⟩, -⟩ := ordered
    refine ⟨l, split ▸ by simp, rejected, ?_⟩
    intro earlier mem lt
    rw [split] at mem
    rcases List.mem_append.1 mem with mem | mem
    · exact accepted earlier mem
    · rcases List.mem_cons.1 mem with rfl | mem
      · omega
      · have := later earlier mem
        omega
  · rintro ⟨l, mem, rejected, accepted⟩
    obtain ⟨before, after, split⟩ := List.append_of_mem mem
    rw [split, List.pairwise_append] at ordered
    obtain ⟨-, -, earlier⟩ := ordered
    refine ⟨before, l, after, split, rejected, ?_⟩
    intro x hx
    refine accepted x ?_ (earlier x hx l List.mem_cons_self)
    rw [split]
    exact List.mem_append_left _ hx

end Pseudocode
