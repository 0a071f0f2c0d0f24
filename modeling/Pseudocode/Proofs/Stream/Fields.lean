/-
  Pseudocode.Proofs.Stream.Fields — how a line is split into fields.

  A line can be split without cutting it. A lexer reports its commas, and the stretches of other
  characters between them; it has two patterns, and at each place it takes the one that reaches
  furthest. Nothing is reported where two commas stand side by side, or where a comma begins or ends
  the line, so an empty field has to be made up for. For that a current piece is carried along: a
  stretch becomes the current piece, and a comma finishes the current piece, whatever it is, and
  leaves an empty one. At the end the current piece is finished too, the empty pieces that come last
  are taken off again, and what is left is trimmed.

  That this splits at the commas rests on one invariant: when `front` has been read, the finished
  pieces and the current one are what stands between the commas of `front` (`Gathered.Holds`). A
  comma always keeps it. A stretch keeps it only where the current piece is empty, at the start or
  behind a comma; two stretches never follow each other, since a pattern reaches as far as it can.

  Proved:
  (1) A line is read in one way, and no character of it is passed over (`lexed_iff`).
  (2) One piece keeps the invariant (`Gathered.Holds.delimiter`, `Gathered.Holds.text`), so what is
      gathered from a line are its fields (`fieldsFrom_eq`).
  (3) Fields are the trimmed pieces of their line up to the last one that is not empty
      (`fields_of_lastFilled`, `fields_of_empty`).
  (4) The same with what follows from it, and how fields that were joined are split again
      (`fields_split_at_commas`).
-/

import Pseudocode.Proofs.Stream.Layout

namespace Pseudocode

open Text

/-! ## Reading a line piece by piece -/

/-- What is reported of a line: a comma, or a stretch of other characters. -/
inductive Piece where
  | delimiter
  | text (cs : List Char)
  deriving DecidableEq, Repr

/-- The patterns: one comma; one or more characters that are no commas. -/
inductive Piece.Matches : Piece → List Char → Prop
  | delimiter : Matches .delimiter [',']
  | text {cs : List Char} (ne : cs ≠ []) (free : ',' ∉ cs) : Matches (.text cs) cs

/-- A piece leads a text: it is what stands in `front`, and no pattern reaches further. -/
structure Piece.Leads (piece : Piece) (front rest : List Char) : Prop where
  here : piece.Matches front
  longest : ∀ other longer, Matches other longer → longer <+: front ++ rest →
    longer.length ≤ front.length

/-- What a line is read as. Where no pattern matches, one character is passed over. -/
inductive Lexed : List Char → List (Option Piece) → Prop
  | nil : Lexed [] []
  | piece {line front rest : List Char} {p : Piece} {reads : List (Option Piece)}
      (split : line = front ++ rest) (leads : p.Leads front rest) (behind : Lexed rest reads) :
      Lexed line (some p :: reads)
  | passed {c : Char} {rest : List Char} {reads : List (Option Piece)}
      (nothing : ∀ p front, Piece.Matches p front → ¬ front <+: c :: rest)
      (behind : Lexed rest reads) : Lexed (c :: rest) (none :: reads)

/-- The pieces of a line. -/
def lex : List Char → List Piece
  | [] => []
  | c :: rest =>
    if c = ',' then .delimiter :: lex rest
    else
      match lex rest with
      | .text cs :: more => .text (c :: cs) :: more
      | more => .text [c] :: more

section Lex

variable {front rest line cs : List Char} {reads : List (Option Piece)}

/-- Every character is matched by one of the patterns. -/
theorem exists_matches (c : Char) (rest : List Char) :
    ∃ p front, Piece.Matches p front ∧ front <+: c :: rest := by
  by_cases comma : c = ','
  · exact ⟨.delimiter, [','], .delimiter, by simp [comma]⟩
  · exact ⟨.text [c], [c], .text (by simp) (by simp [Ne.symm comma]), by simp⟩

/-- A comma leads what it stands in front of. -/
theorem leads_delimiter (rest : List Char) : Piece.delimiter.Leads [','] rest := by
  refine ⟨.delimiter, ?_⟩
  intro other longer fits within
  cases fits with
  | delimiter => exact Nat.le_refl _
  | text ne free =>
    cases longer with
    | nil => exact absurd rfl ne
    | cons c longer =>
      obtain rfl : c = ',' := (List.cons_prefix_cons.1 within).1
      exact absurd List.mem_cons_self free

/-- A stretch leads a text when it goes on to the next comma. -/
theorem leads_text_iff :
    (Piece.text cs).Leads front rest ↔
      front = cs ∧ cs ≠ [] ∧ ',' ∉ cs ∧ ∀ c, rest.head? = some c → c = ',' := by
  constructor
  · rintro ⟨here, longest⟩
    cases here with
    | text ne free =>
      refine ⟨rfl, ne, free, ?_⟩
      intro c first
      by_cases comma : c = ','
      · exact comma
      · -- the stretch could be longer by `c`
        obtain ⟨rest, rfl⟩ := List.head?_eq_some_iff.1 first
        have further := longest (.text (front ++ [c])) (front ++ [c])
          (.text (by simp) (by simp [free, Ne.symm comma])) ⟨rest, by simp⟩
        rw [List.length_append, List.length_singleton] at further
        omega
  · rintro ⟨rfl, ne, free, stops⟩
    refine ⟨.text ne free, ?_⟩
    intro other longer fits within
    cases fits with
    | delimiter => exact List.length_pos_of_ne_nil ne
    | text _ free' =>
      obtain ⟨behind, whole⟩ := within
      rcases List.append_eq_append_iff.1 whole with ⟨more, rfl, -⟩ | ⟨more, rfl, rfl⟩
      · simp
      · cases more with
        | nil => simp
        | cons c more =>
          have comma : c = ',' := stops c rfl
          exact absurd (by simp [comma]) free'

theorem lex_comma (rest : List Char) : lex (',' :: rest) = .delimiter :: lex rest := rfl

/-- A stretch up to the next comma is one piece. -/
theorem lex_text (ne : cs ≠ []) (free : ',' ∉ cs) (stops : ∀ c, rest.head? = some c → c = ',') :
    lex (cs ++ rest) = .text cs :: lex rest := by
  induction cs with
  | nil => exact absurd rfl ne
  | cons c cs ih =>
    rw [List.mem_cons, not_or] at free
    obtain ⟨notComma, free⟩ := free
    rw [List.cons_append, lex, if_neg (Ne.symm notComma)]
    cases cs with
    | nil =>
      rw [List.nil_append]
      cases rest with
      | nil => rfl
      | cons d rest =>
        obtain rfl := stops d rfl
        rw [lex_comma]
    | cons d cs => rw [ih (List.cons_ne_nil d cs) free]

/-- A character that is no comma begins a stretch, up to the next comma. -/
theorem exists_stretch {c : Char} (notComma : c ≠ ',') (rest : List Char) :
    ∃ cs behind, c :: rest = cs ++ behind ∧ cs ≠ [] ∧ ',' ∉ cs ∧
      ∀ d, behind.head? = some d → d = ',' := by
  by_cases mem : ',' ∈ c :: rest
  · obtain ⟨cs, behind, split, free⟩ := List.eq_append_cons_of_mem mem
    refine ⟨cs, ',' :: behind, split, ?_, free, by simp⟩
    rintro rfl
    exact notComma (List.cons.inj split).1
  · exact ⟨c :: rest, [], (List.append_nil _).symm, List.cons_ne_nil c rest, mem, by simp⟩

/-- A line is read as its pieces. -/
theorem lexed_lex (line : List Char) : Lexed line ((lex line).map some) := by
  induction size : line.length using Nat.strongRecOn generalizing line with
  | ind n ih =>
    cases line with
    | nil => exact .nil
    | cons c rest =>
      by_cases comma : c = ','
      · subst comma
        rw [lex_comma]
        exact .piece rfl (leads_delimiter rest)
          (ih rest.length (size ▸ Nat.lt_succ_self _) rest rfl)
      · obtain ⟨cs, behind, split, ne, free, stops⟩ := exists_stretch comma rest
        have shorter : behind.length < n := by
          have pos := List.length_pos_of_ne_nil ne
          rw [split, List.length_append] at size
          omega
        rw [split, lex_text ne free stops]
        exact .piece rfl (leads_text_iff.2 ⟨rfl, ne, free, stops⟩) (ih _ shorter behind rfl)

/-- Whatever is read of a line, it is its pieces. -/
theorem eq_lex_of_lexed (h : Lexed line reads) : reads = (lex line).map some := by
  induction h with
  | nil => rfl
  | @piece line front rest p reads split leads _ ih =>
    rw [split, ih]
    cases p with
    | delimiter =>
      cases leads.here
      rfl
    | text cs =>
      obtain ⟨rfl, ne, free, stops⟩ := leads_text_iff.1 leads
      rw [lex_text ne free stops, List.map_cons]
  | @passed c rest reads nothing _ _ =>
    obtain ⟨p, front, fits, within⟩ := exists_matches c rest
    exact absurd within (nothing p front fits)

/-- A line is read in one way, without passing a character over. -/
theorem lexed_iff : Lexed line reads ↔ reads = (lex line).map some :=
  ⟨eq_lex_of_lexed, fun h => h ▸ lexed_lex line⟩

end Lex

/-! ## Gathering the pieces -/

/-- The pieces that are finished, and the current one. -/
structure Gathered where
  finished : List (List Char)
  current : List Char
  deriving DecidableEq, Repr

namespace Gathered

def empty : Gathered := ⟨[], []⟩

/-- Takes in what is read next. -/
def take (g : Gathered) : Option Piece → Gathered
  | some .delimiter => ⟨g.finished ++ [g.current], []⟩
  | some (.text cs) => { g with current := cs }
  | none => g

/-- All pieces, the current one with them. -/
def pieces (g : Gathered) : List (List Char) := g.finished ++ [g.current]

/-- What is gathered when `front` has been read: the pieces between its commas. -/
def Holds (g : Gathered) (front : List Char) : Prop := g.pieces = front.splitOn ','

variable {g : Gathered} {front : List Char}

theorem holds_empty : empty.Holds [] := rfl

/-- A comma finishes the current piece. -/
theorem Holds.delimiter (h : g.Holds front) : (g.take (some .delimiter)).Holds (front ++ [',']) := by
  have taken : (g.take (some .delimiter)).pieces = g.pieces ++ [[]] := rfl
  rw [Holds, taken, h, List.splitOn_append_cons_self, List.splitOn_nil]

/-- At the start and behind a comma the current piece is empty, and a stretch takes its place. -/
theorem Holds.text (h : g.Holds front) (start : ∀ c, front.getLast? = some c → c = ',')
    {cs : List Char} (free : ',' ∉ cs) : (g.take (some (.text cs))).Holds (front ++ cs) := by
  have taken : (g.take (some (.text cs))).pieces = g.finished ++ [cs] := rfl
  rw [Holds, taken]
  rcases List.eq_nil_or_concat front with rfl | ⟨before, c, rfl⟩
  · have parts : g.finished ++ [g.current] = [] ++ [[]] := h
    rw [(List.append_singleton_inj.1 parts).1, List.nil_append, List.nil_append,
      List.splitOn_eq_singleton free]
  · obtain rfl : c = ',' := start c (by simp)
    rw [List.concat_eq_append] at h ⊢
    have parts : g.finished ++ [g.current] = before.splitOn ',' ++ [[]] :=
      h.trans (List.splitOn_append_cons_self before [])
    rw [List.append_assoc, List.singleton_append, List.splitOn_append_cons_self,
      (List.append_singleton_inj.1 parts).1, List.splitOn_eq_singleton free]

/-- When the rest is read too, all pieces are gathered. A stretch can come next only where none was
just read. -/
theorem Holds.run {rest : List Char} {reads : List (Option Piece)} (h : g.Holds front)
    (lexed : Lexed rest reads)
    (apart : (∀ c, front.getLast? = some c → c = ',') ∨ ∀ c, rest.head? = some c → c = ',') :
    (reads.foldl take g).Holds (front ++ rest) := by
  induction lexed generalizing g front with
  | nil => rwa [List.append_nil]
  | @piece line lead rest p reads split leads _ ih =>
    rw [split, List.foldl_cons, ← List.append_assoc]
    cases p with
    | delimiter =>
      cases leads.here
      exact ih h.delimiter (.inl (by simp))
    | text cs =>
      obtain ⟨rfl, ne, free, stops⟩ := leads_text_iff.1 leads
      have start : ∀ c, front.getLast? = some c → c = ',' := by
        rcases apart with start | next
        · exact start
        · obtain ⟨c, lead, rfl⟩ := List.exists_cons_of_ne_nil ne
          have comma : c = ',' := next c (by rw [split]; rfl)
          exact absurd (by simp [comma]) free
      exact ih (h.text start free) (.inr stops)
  | @passed c rest reads nothing _ _ =>
    obtain ⟨p, front, fits, within⟩ := exists_matches c rest
    exact absurd within (nothing p front fits)

end Gathered

/-- The fields that are gathered: without the empty ones that come last, trimmed. -/
def fieldsFrom (reads : List (Option Piece)) : List (List Char) :=
  (dropEndWhile List.isEmpty (reads.foldl Gathered.take .empty).pieces).map trim

/-- What is gathered from a line are its fields. -/
theorem fieldsFrom_eq {line : List Char} {reads : List (Option Piece)} (h : Lexed line reads) :
    fieldsFrom reads = Record.fields line := by
  have gathered : (reads.foldl Gathered.take .empty).pieces = line.splitOn ',' :=
    Gathered.holds_empty.run h (.inl (by simp))
  rw [fieldsFrom, gathered, Record.fields]

/-! ## Cutting at the commas -/

/-- A line is cut at its commas: the pieces have none, and joined by commas they are the line. -/
structure CutAtCommas (line : List Char) (raw : List (List Char)) : Prop where
  ne : raw ≠ []
  free : ∀ piece ∈ raw, ',' ∉ piece
  joined : [','].intercalate raw = line

/-- A line can be cut at its commas in one way. -/
theorem cutAtCommas_iff {line : List Char} {raw : List (List Char)} :
    CutAtCommas line raw ↔ raw = line.splitOn ',' := by
  constructor
  · rintro ⟨ne, free, rfl⟩
    exact (List.splitOn_intercalate ',' free ne).symm
  · rintro rfl
    exact ⟨List.splitOn_ne_nil _ _, fun piece mem => (mem_splitOn mem).1,
      List.intercalate_splitOn ','⟩

/-- At `k` stands the last piece that is not empty. -/
structure LastFilled (raw : List (List Char)) (k : Nat) : Prop where
  here : ∃ piece, raw[k]? = some piece ∧ piece ≠ []
  behind : ∀ j piece, k < j → raw[j]? = some piece → piece = []

section Last

variable {raw : List (List Char)} {k : Nat}

/-- What is left when the empty pieces at the end are dropped. -/
theorem dropEndWhile_isEmpty_of_lastFilled (h : LastFilled raw k) :
    dropEndWhile List.isEmpty raw = raw.take (k + 1) := by
  obtain ⟨⟨piece, here, filled⟩, behind⟩ := h
  have empty : ∀ dropped ∈ raw.drop (k + 1), dropped.isEmpty = true := by
    intro dropped mem
    obtain ⟨n, hn⟩ := List.getElem?_of_mem mem
    rw [List.getElem?_drop] at hn
    exact List.isEmpty_iff.2 (behind _ _ (by omega) hn)
  have last : (raw.take (k + 1)).getLast? = some piece := by
    rw [List.take_add_one, here, Option.toList_some, List.getLast?_concat]
  conv => lhs; rw [← List.take_append_drop (k + 1) raw]
  rw [dropEndWhile_append empty]
  apply dropEndWhile_eq_self
  intro a mem
  rw [Option.mem_def, last] at mem
  cases mem
  exact List.isEmpty_eq_false_iff.2 filled

/-- Some piece is the last one that is not empty, or all are empty. -/
theorem exists_lastFilled (raw : List (List Char)) :
    (∃ k, LastFilled raw k) ∨ ∀ piece ∈ raw, piece = [] := by
  induction raw with
  | nil => exact .inr (by simp)
  | cons first raw ih =>
    rcases ih with ⟨k, here, behind⟩ | empty
    · refine .inl ⟨k + 1, here, ?_⟩
      rintro (- | j) piece lt at_
      · omega
      · exact behind j piece (by omega) at_
    · by_cases filled : first = []
      · exact .inr (by simpa [filled] using empty)
      · refine .inl ⟨0, ⟨first, rfl, filled⟩, ?_⟩
        rintro (- | j) piece lt at_
        · omega
        · exact empty piece (List.mem_of_getElem? at_)

end Last

section Fields

variable {line : List Char} {k : Nat}

/-- Fields are the trimmed pieces up to the last one that is not empty. -/
theorem fields_of_lastFilled (h : LastFilled (line.splitOn ',') k) :
    Record.fields line = ((line.splitOn ',').take (k + 1)).map trim := by
  rw [Record.fields, dropEndWhile_isEmpty_of_lastFilled h]

/-- A line of empty pieces has no fields. -/
theorem fields_of_empty (h : ∀ piece ∈ line.splitOn ',', piece = []) :
    Record.fields line = [] := by
  have dropped : dropEndWhile List.isEmpty (line.splitOn ',') = [] :=
    dropEndWhile_eq_nil_iff.2 fun piece mem => List.isEmpty_iff.2 (h piece mem)
  rw [Record.fields, dropped, List.map_nil]

/-- Every piece up to the last one that is not empty keeps its place. -/
theorem getElem?_fields (h : LastFilled (line.splitOn ',') k) {i : Nat} (le : i ≤ k) :
    (Record.fields line)[i]? = ((line.splitOn ',')[i]?).map trim := by
  rw [fields_of_lastFilled h, List.getElem?_map, List.getElem?_take_of_lt (Nat.lt_succ_of_le le)]

theorem getLast?_fields (h : LastFilled (line.splitOn ',') k) :
    (Record.fields line).getLast? = ((line.splitOn ',')[k]?).map trim := by
  obtain ⟨piece, here, -⟩ := h.here
  rw [fields_of_lastFilled h, List.take_add_one, here, Option.toList_some, List.map_append,
    List.map_singleton, List.getLast?_concat, Option.map_some]

end Fields

/-- Where trimming leaves nothing there are only blanks. -/
theorem isBlank_of_trim_eq_nil {cs : List Char} (h : trim cs = []) :
    ∀ c ∈ cs, isBlank c = true := by
  have blank : ∀ c ∈ cs.dropWhile isBlank, isBlank c = true := dropEndWhile_eq_nil_iff.1 h
  have none : cs.dropWhile isBlank = [] := by
    cases rest : cs.dropWhile isBlank with
    | nil => rfl
    | cons c more =>
      have first := List.head?_dropWhile_not isBlank cs
      rw [rest] at blank first
      cases (blank c List.mem_cons_self).symm.trans first
  exact List.dropWhile_eq_nil_iff.1 none

/-! ## Joining fields -/

/-- A piece is a field with blanks around it. -/
def Padded (field piece : List Char) : Prop :=
  ∃ before behind, (∀ c ∈ before, isBlank c = true) ∧ (∀ c ∈ behind, isBlank c = true) ∧
    piece = before ++ field ++ behind

theorem Padded.trim_eq {field piece : List Char} (h : Padded field piece)
    (trimmed : Trimmed field) : trim piece = field := by
  obtain ⟨before, behind, blank, blank', rfl⟩ := h
  rw [trim_append_blanks blank', trim_blanks_append blank, trim_eq_self_iff.2 trimmed]

theorem Padded.comma_not_mem {field piece : List Char} (h : Padded field piece)
    (free : ',' ∉ field) : ',' ∉ piece := by
  obtain ⟨before, behind, blank, blank', rfl⟩ := h
  simp [free, comma_not_mem_blanks blank, comma_not_mem_blanks blank']

/-- Padded fields are the fields again once they are trimmed, and have no commas. -/
theorem map_trim_of_padded {fs raw : List (List Char)} (padded : List.Forall₂ Padded fs raw)
    (clean : ∀ field ∈ fs, ',' ∉ field ∧ Trimmed field) :
    raw.map trim = fs ∧ ∀ piece ∈ raw, ',' ∉ piece := by
  induction padded with
  | nil => exact ⟨rfl, by simp⟩
  | @cons field piece fs raw here _ ih =>
    obtain ⟨free, trimmed⟩ := clean field List.mem_cons_self
    obtain ⟨same, others⟩ := ih fun f mem => clean f (List.mem_cons_of_mem _ mem)
    refine ⟨by rw [List.map_cons, here.trim_eq trimmed, same], ?_⟩
    exact List.forall_mem_cons.2 ⟨here.comma_not_mem free, others⟩

/-- Fields that are padded and joined by commas are split again. -/
theorem fields_of_padded {fs raw : List (List Char)} {last : List Char}
    (clean : ∀ field ∈ fs, ',' ∉ field ∧ Trimmed field) (final : fs.getLast? = some last)
    (filled : last ≠ []) (padded : List.Forall₂ Padded fs raw) :
    Record.fields ([','].intercalate raw) = fs := by
  obtain ⟨same, free⟩ := map_trim_of_padded padded clean
  rw [← same, List.getLast?_map, Option.map_eq_some_iff] at final
  obtain ⟨piece, final, rfl⟩ := final
  have filled : piece ≠ [] := by
    rintro rfl
    exact filled rfl
  rw [Record.fields_intercalate free final filled, same]

/-! ## Splitting a line -/

/-- What fields have to do with the pieces of their line. -/
structure SplitLaw (raw fs : List (List Char)) : Prop where
  /-- They are the trimmed pieces up to the last one that is not empty, if there is one. -/
  eq : (∃ k, LastFilled raw k ∧ fs = (raw.take (k + 1)).map trim) ∨
    (∀ piece ∈ raw, piece = []) ∧ fs = []
  /-- None of them has a comma, or a blank at an end. -/
  clean : ∀ field ∈ fs, ',' ∉ field ∧ Trimmed field
  /-- The last one is empty only where there are blanks, and nothing else, in its piece. -/
  last : fs.getLast? = some [] →
    ∃ k piece, LastFilled raw k ∧ raw[k]? = some piece ∧ piece ≠ [] ∧
      ∀ c ∈ piece, isBlank c = true
  /-- Each of them, empty or not, stands where its piece stands. -/
  place : ∀ k i, LastFilled raw k → i ≤ k → fs[i]? = raw[i]?.map trim

theorem splitLaw_fields (line : List Char) : SplitLaw (line.splitOn ',') (Record.fields line) := by
  constructor
  case eq =>
    rcases exists_lastFilled (line.splitOn ',') with ⟨k, last⟩ | empty
    · exact .inl ⟨k, last, fields_of_lastFilled last⟩
    · exact .inr ⟨empty, fields_of_empty empty⟩
  case clean =>
    intro field mem
    obtain ⟨trimmed, free, -⟩ := Record.mem_fields mem
    exact ⟨free, trimmed⟩
  case last =>
    intro final
    rcases exists_lastFilled (line.splitOn ',') with ⟨k, last⟩ | empty
    · obtain ⟨piece, here, filled⟩ := last.here
      rw [getLast?_fields last, here, Option.map_some, Option.some.injEq] at final
      exact ⟨k, piece, last, here, filled, isBlank_of_trim_eq_nil final⟩
    · rw [fields_of_empty empty] at final
      cases final
  case place => exact fun k i last le => getElem?_fields last le

/-- Splitting a line. It can be read piece by piece in one way, in which no character is passed over,
and what is gathered are its fields. It can be cut at its commas in one way, and the fields are the
trimmed pieces up to the last one that is not empty. The other way round, fields without commas and
without blanks at their ends, the last of them not empty, are split again when they are joined by
commas, with any blanks around them. -/
theorem fields_split_at_commas :
    (∀ line : List Char,
      (∃ pieces : List Piece, (∀ reads, Lexed line reads ↔ reads = pieces.map some) ∧
        fieldsFrom (pieces.map some) = Record.fields line) ∧
      ∃ raw, (∀ other, CutAtCommas line other ↔ other = raw) ∧
        SplitLaw raw (Record.fields line)) ∧
    ∀ (fs raw : List (List Char)) (last : List Char),
      (∀ field ∈ fs, ',' ∉ field ∧ Trimmed field) → fs.getLast? = some last → last ≠ [] →
        List.Forall₂ Padded fs raw → Record.fields ([','].intercalate raw) = fs := by
  refine ⟨fun line => ⟨?_, ?_⟩, fun fs raw last clean final filled padded => ?_⟩
  · exact ⟨lex line, fun reads => lexed_iff, fieldsFrom_eq (lexed_lex line)⟩
  · exact ⟨line.splitOn ',', fun other => cutAtCommas_iff, splitLaw_fields line⟩
  · exact fields_of_padded clean final filled padded

/-- Three fields, the second of them empty. -/
def sparseFields : List (List Char) := ["-76".toList, [], "a b".toList]

/-- The same fields with blanks of several kinds around them. -/
def airyFields : List (List Char) := [" -76\t".toList, "\u00a0".toList, "\u3000a b\r".toList]

/-- The padding is trimmed away, and the empty field keeps its place. -/
theorem sparseFields_split :
    ((∀ field ∈ sparseFields, ',' ∉ field ∧ Trimmed field) ∧
      sparseFields.getLast? = some "a b".toList ∧ "a b".toList ≠ [] ∧
      List.Forall₂ Padded sparseFields airyFields) ∧
    Record.fields ([','].intercalate airyFields) = sparseFields := by
  have clean : ∀ field ∈ sparseFields, ',' ∉ field ∧ Trimmed field := by
    have : ∀ field ∈ sparseFields, ',' ∉ field ∧ trim field = field := by decide
    exact fun field mem => (this field mem).imp_right trim_eq_self_iff.1
  have padded : List.Forall₂ Padded sparseFields airyFields :=
    .cons ⟨[' '], ['\t'], List.all_eq_true.1 rfl, List.all_eq_true.1 rfl, rfl⟩
      (.cons ⟨[], ['\u00a0'], List.all_eq_true.1 rfl, List.all_eq_true.1 rfl, rfl⟩
        (.cons ⟨['\u3000'], ['\r'], List.all_eq_true.1 rfl, List.all_eq_true.1 rfl, rfl⟩ .nil))
  obtain ⟨-, again⟩ := fields_split_at_commas
  exact ⟨⟨clean, rfl, by decide, padded⟩, again _ _ _ clean rfl (by decide) padded⟩

/-- Pieces of blanks count, and empty ones at the end do not. -/
example : Record.fields "a,, ,,".toList = [['a'], [], []] := by decide

end Pseudocode
