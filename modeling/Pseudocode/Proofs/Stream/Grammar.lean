/-
  Pseudocode.Proofs.Stream.Grammar — which lines are records.

  Reading a record drops the empty pieces at the end of its line, trims what is left, tests how many
  fields there are, and tells a record with an empty second field apart from the others. The grammar
  behind it is plain. Let the pieces of a line be what stands between its commas, trimmed. The first
  piece is a token code. If the second is not empty, it is the lexeme, and the position and the line
  number are the third and the fourth. If it is empty, the lexeme is a comma, the third piece is
  passed over, and the position and the line number are the fourth and the fifth. What stands
  behind a line number has no say.

  A code is an integer that stands for a kind; a position is an integer of 64 bits with a sign; a
  line number is a natural number of 64 bits. An integer is a run of digits with or without a sign,
  and a natural number has no minus. Zeros in front are let in.

  That the empty pieces can be dropped is no matter, because a line number is not empty: a record
  reaches at least that far (`exists_fields_eq`).

  Proved:
  (1) The readers of numerals accept the numerals of the grammar and give their values
      (`digits?_eq_some_iff`, `natBelow?_eq_some_iff`, `intWithin?_eq_some_iff`).
  (2) A line is read as a token when its pieces are a record of the token
      (`readRecord_eq_ok_iff_recordOf`).
  (3) The same, with what happens to all other lines and what has no say (`record_grammar`).
-/

import Pseudocode.Proofs.Stream.Layout
import Mathlib.Algebra.Ring.Int.Defs
import Mathlib.Algebra.Ring.Nat

namespace Pseudocode

open Text

/-! ## Numerals -/

namespace Text

/-- A run of decimal digits, and its value. -/
inductive Numeral : List Char → Nat → Prop
  | digit {c : Char} (h : c.isDigit = true) : Numeral [c] (c.toNat - '0'.toNat)
  | concat {ds : List Char} {n : Nat} {c : Char} (front : Numeral ds n) (h : c.isDigit = true) :
      Numeral (ds ++ [c]) (10 * n + (c.toNat - '0'.toNat))

/-- A numeral, with or without a plus sign. -/
inductive Natural : List Char → Nat → Prop
  | plain {ds : List Char} {n : Nat} (h : Numeral ds n) : Natural ds n
  | plus {ds : List Char} {n : Nat} (h : Numeral ds n) : Natural ('+' :: ds) n

/-- A numeral, with or without a sign. -/
inductive Integer : List Char → Int → Prop
  | natural {cs : List Char} {n : Nat} (h : Natural cs n) : Integer cs n
  | minus {ds : List Char} {n : Nat} (h : Numeral ds n) : Integer ('-' :: ds) (-(n : Int))

theorem Numeral.head {ds : List Char} {n : Nat} (h : Numeral ds n) :
    ∃ c rest, ds = c :: rest ∧ c.isDigit = true := by
  induction h with
  | digit hc => exact ⟨_, [], rfl, hc⟩
  | concat _ _ ih =>
    obtain ⟨c, rest, rfl, hc⟩ := ih
    exact ⟨c, _, rfl, hc⟩

theorem not_numeral_of_sign {c : Char} (sign : c.isDigit = false) {ds : List Char} {n : Nat} :
    ¬ Numeral (c :: ds) n := by
  intro h
  obtain ⟨d, rest, e, hd⟩ := h.head
  cases e
  rw [sign] at hd
  cases hd

theorem Natural.ne_nil {cs : List Char} {n : Nat} (h : Natural cs n) : cs ≠ [] := by
  rintro rfl
  cases h with
  | plain h =>
    obtain ⟨c, rest, e, -⟩ := h.head
    cases e

theorem numeral_ofDigitChars {ds : List Char} (ne : ds ≠ []) (all : ds.all Char.isDigit = true) :
    Numeral ds (Nat.ofDigitChars 10 ds 0) := by
  induction ds using List.reverseRecOn with
  | nil => exact absurd rfl ne
  | append_singleton ds c ih =>
    rw [List.all_append, Bool.and_eq_true, List.all_cons, List.all_nil, Bool.and_true] at all
    by_cases e : ds = []
    · subst e
      have value : Nat.ofDigitChars 10 ([] ++ [c]) 0 = c.toNat - '0'.toNat := by
        simp [Nat.ofDigitChars_cons]
      rw [value]
      exact .digit all.2
    · rw [Nat.ofDigitChars_append, Nat.ofDigitChars_cons, Nat.ofDigitChars_nil]
      exact .concat (ih e all.1) all.2

theorem digits?_eq_some_iff {cs : List Char} {n : Nat} : digits? cs = some n ↔ Numeral cs n := by
  constructor
  · intro h
    unfold digits? at h
    split at h
    · rename_i run
      cases h
      exact numeral_ofDigitChars run.1 run.2
    · cases h
  · intro h
    induction h with
    | digit h => simp [digits?, h, Nat.ofDigitChars_cons]
    | concat front h ih =>
      unfold digits? at ih
      split at ih
      · rename_i run
        cases ih
        rw [digits?, if_pos (by simp [run.2, h]), Nat.ofDigitChars_append, Nat.ofDigitChars_cons,
          Nat.ofDigitChars_nil]
      · cases ih

theorem nat?_eq_some_iff {cs : List Char} {n : Nat} : nat? cs = some n ↔ Natural cs n := by
  unfold nat?
  split
  · rename_i ds
    rw [digits?_eq_some_iff]
    constructor
    · exact .plus
    · intro h
      cases h with
      | plain h => exact absurd h (not_numeral_of_sign rfl)
      | plus h => exact h
  · rename_i ds unsigned
    rw [digits?_eq_some_iff]
    constructor
    · exact .plain
    · intro h
      cases h with
      | plain h => exact h
      | plus h => exact absurd rfl (unsigned _)

theorem int?_eq_some_iff {cs : List Char} {n : Int} : int? cs = some n ↔ Integer cs n := by
  unfold int?
  split
  · rename_i ds
    simp only [Option.map_eq_some_iff, Option.bind_eq_bind, Option.bind_eq_some_iff,
      Option.pure_def, Option.some.injEq, digits?_eq_some_iff]
    constructor
    · rintro ⟨_, ⟨m, h, rfl⟩, rfl⟩
      exact .minus h
    · intro h
      cases h with
      | natural h =>
        cases h with
        | plain h => exact absurd h (not_numeral_of_sign rfl)
      | minus h => exact ⟨_, ⟨_, h, rfl⟩, rfl⟩
  · rename_i ds unsigned
    simp only [Option.map_eq_some_iff, Option.bind_eq_bind, Option.bind_eq_some_iff,
      Option.pure_def, Option.some.injEq, nat?_eq_some_iff]
    constructor
    · rintro ⟨_, ⟨m, h, rfl⟩, rfl⟩
      exact .natural h
    · intro h
      cases h with
      | natural h => exact ⟨_, ⟨_, h, rfl⟩, rfl⟩
      | minus h => exact absurd rfl (unsigned _)

theorem natBelow?_eq_some_iff {bound n : Nat} {cs : List Char} :
    natBelow? bound cs = some n ↔ Natural cs n ∧ n < bound := by
  rw [natBelow?, Option.filter_eq_some_iff, nat?_eq_some_iff, decide_eq_true_eq]

theorem intWithin?_eq_some_iff {low high n : Int} {cs : List Char} :
    intWithin? low high cs = some n ↔ Integer cs n ∧ low ≤ n ∧ n ≤ high := by
  rw [intWithin?, Option.filter_eq_some_iff, int?_eq_some_iff, Bool.and_eq_true,
    decide_eq_true_eq, decide_eq_true_eq]

end Text

/-! ## Records -/

/-- Four pieces say what a token is. -/
structure Token.SpelledBy (t : Token) (code lexeme position line : List Char) : Prop where
  code : Integer code t.kind.code
  lexeme : t.lexeme = String.ofList lexeme
  position : Integer position t.position ∧ -2 ^ 63 ≤ t.position ∧ t.position < 2 ^ 63
  line : Natural line t.line ∧ t.line < 2 ^ 64

/-- The pieces of a line are a record of a token. -/
inductive RecordOf : List (List Char) → Token → Prop
  | field {p0 p1 p2 p3 : List Char} {rest : List (List Char)} {t : Token} (filled : p1 ≠ [])
      (spelled : t.SpelledBy p0 p1 p2 p3) : RecordOf (p0 :: p1 :: p2 :: p3 :: rest) t
  | comma {p0 p2 p3 p4 : List Char} {rest : List (List Char)} {t : Token}
      (spelled : t.SpelledBy p0 [','] p3 p4) : RecordOf (p0 :: [] :: p2 :: p3 :: p4 :: rest) t

/-- Pieces that decide what record they begin: four at least, and a fifth if the second one is
empty. -/
def Decisive (front : List (List Char)) : Prop :=
  ∃ p0 p1 p2 p3 more, front = p0 :: p1 :: p2 :: p3 :: more ∧ (p1 = [] → more ≠ [])

/-- A record does not say where it stands, nor what its name is resolved to. -/
theorem RecordOf.moved {pieces : List (List Char)} {t : Token} (h : RecordOf pieces t)
    (span : Span) : RecordOf pieces { t with span, resolved := none } := by
  cases h with
  | field filled spelled => exact .field filled ⟨spelled.1, spelled.2, spelled.3, spelled.4⟩
  | comma spelled => exact .comma ⟨spelled.1, spelled.2, spelled.3, spelled.4⟩

/-- What stands behind decisive pieces has no say. -/
theorem RecordOf.of_decisive {front rest : List (List Char)} {t : Token}
    (h : RecordOf (front ++ rest) t) (decisive : Decisive front) (rest' : List (List Char)) :
    RecordOf (front ++ rest') t := by
  obtain ⟨p0, p1, p2, p3, more, rfl, enough⟩ := decisive
  cases more with
  | nil =>
    cases h with
    | field filled spelled => exact .field filled spelled
    | comma spelled => exact absurd rfl (enough rfl)
  | cons p4 more =>
    cases h with
    | field filled spelled => exact .field filled spelled
    | comma spelled => exact .comma spelled

section Reading

variable {number : Nat} {span : Span} {line : List Char} {t : Token}

/-- The columns of a record say what its token is. -/
theorem token_eq_ok_iff_spelledBy {c : Record.Columns} :
    Record.token span c = .ok t ↔
      t.SpelledBy c.code c.lexeme c.position c.line ∧ t.resolved = none ∧ t.span = span := by
  rw [Record.token_eq_ok_iff, intWithin?_eq_some_iff, intWithin?_eq_some_iff,
    natBelow?_eq_some_iff]
  have low : Int64.minValue.toInt = -2 ^ 63 := rfl
  have high : t.position ≤ Int64.maxValue.toInt ↔ t.position < 2 ^ 63 := by
    rw [Int64.toInt_maxValue]
    omega
  have bound : UInt64.size = 2 ^ 64 := rfl
  rw [low, high, bound]
  constructor
  · rintro ⟨⟨code, -⟩, position, line, lexeme, resolved, span⟩
    exact ⟨⟨code, lexeme, position, line⟩, resolved, span⟩
  · rintro ⟨⟨code, lexeme, position, line⟩, resolved, span⟩
    exact ⟨⟨code, Kind.bounds_code t.kind⟩, position, line, lexeme, resolved, span⟩

/-- Fields are columns of a record of the line's pieces, and those are all. -/
theorem readRecord_eq_ok_iff_recordOf :
    readRecord number span line = .ok t ↔
      RecordOf (trimmedPieces line) t ∧ t.resolved = none ∧ t.span = span := by
  rw [readRecord_eq_ok_iff, Record.parse_eq_ok_iff]
  constructor
  · rintro ⟨c, cut, made⟩
    obtain ⟨spelled, resolved, span⟩ := token_eq_ok_iff_spelledBy.1 made
    obtain ⟨behind, fields, takes⟩ := Record.columns_eq_ok_iff.1 cut
    obtain ⟨dropped, pieces, -⟩ := exists_trimmedPieces_eq line
    refine ⟨?_, resolved, span⟩
    obtain ⟨code, lexeme, position, line⟩ := c
    rw [pieces, fields]
    cases takes with
    | field filled => exact .field filled spelled
    | comma => exact .comma spelled
  · rintro ⟨record, resolved, span⟩
    -- the line number is not empty, so no piece up to it was dropped
    generalize pieces : trimmedPieces line = all at record
    cases record with
    | @field p0 p1 p2 p3 rest _ filled spelled =>
      have front : trimmedPieces line = [p0, p1, p2, p3] ++ rest := pieces
      obtain ⟨more, fields⟩ := exists_fields_eq front rfl spelled.line.1.ne_nil
      refine ⟨⟨p0, p1, p2, p3⟩, ?_, token_eq_ok_iff_spelledBy.2 ⟨spelled, resolved, span⟩⟩
      exact Record.columns_eq_ok_iff.2 ⟨_, fields, .field filled⟩
    | @comma p0 p2 p3 p4 rest _ spelled =>
      have front : trimmedPieces line = [p0, [], p2, p3, p4] ++ rest := pieces
      obtain ⟨more, fields⟩ := exists_fields_eq front rfl spelled.line.1.ne_nil
      refine ⟨⟨p0, [','], p3, p4⟩, ?_, token_eq_ok_iff_spelledBy.2 ⟨spelled, resolved, span⟩⟩
      exact Record.columns_eq_ok_iff.2 ⟨_, fields, .comma⟩

/-- What is not read as a token is refused as a malformed record. -/
theorem readRecord_cases (number : Nat) (span : Span) (line : List Char) :
    (∃ t, readRecord number span line = .ok t) ∨
      ∃ message, readRecord number span line = .error (.malformedRecord number message span) := by
  unfold readRecord
  cases Record.parse span line with
  | ok t => exact .inl ⟨t, rfl⟩
  | error cause => exact .inr ⟨_, rfl⟩

end Reading

/-- A line has one piece more than commas. -/
theorem length_trimmedPieces (line : List Char) :
    (trimmedPieces line).length = line.count ',' + 1 := by
  rw [trimmedPieces, List.length_map]
  induction line with
  | nil => rfl
  | cons c line ih =>
    rw [List.splitOn_cons_eq_if_modifyHead, List.count_cons]
    split
    · rw [List.length_cons, ih]
    · rw [List.length_modifyHead, ih]

/-- A line is read as a token exactly when its pieces, one more than it has commas, are a record of
that token, which gets the given span and is not resolved. What stands behind decisive pieces has
no say in it. Every other line is refused as a malformed record, with the given number and span. -/
theorem record_grammar (number : Nat) (span : Span) (line : List Char) :
    (trimmedPieces line).length = line.count ',' + 1 ∧
    (∀ t, readRecord number span line = .ok t ↔
      RecordOf (trimmedPieces line) t ∧ t.resolved = none ∧ t.span = span) ∧
    (∀ other front rest rest', trimmedPieces line = front ++ rest →
      trimmedPieces other = front ++ rest' → Decisive front →
        ∀ t, readRecord number span line = .ok t ↔ readRecord number span other = .ok t) ∧
    ((∃ message, readRecord number span line = .error (.malformedRecord number message span)) ↔
      ¬ ∃ t, RecordOf (trimmedPieces line) t) := by
  refine ⟨length_trimmedPieces line, fun t => readRecord_eq_ok_iff_recordOf, ?_, ?_⟩
  · intro other front rest rest' pieces pieces' decisive t
    rw [readRecord_eq_ok_iff_recordOf, readRecord_eq_ok_iff_recordOf, pieces, pieces']
    refine and_congr_left fun _ => ⟨fun h => ?_, fun h => ?_⟩
    · exact h.of_decisive decisive rest'
    · exact h.of_decisive decisive rest
  · constructor
    · rintro ⟨message, refused⟩ ⟨t, record⟩
      have read : readRecord number span line = .ok { t with span, resolved := none } :=
        readRecord_eq_ok_iff_recordOf.2 ⟨record.moved span, rfl, rfl⟩
      cases refused.symm.trans read
    · intro none
      rcases readRecord_cases number span line with ⟨t, read⟩ | refused
      · exact absurd ⟨t, (readRecord_eq_ok_iff_recordOf.1 read).1⟩ none
      · exact refused

/-- A comma with zeros and a plus sign in its numerals, and blanks for a third field. -/
def wideComma : List Char := "-0076,, ,+007,+03".toList

/-- The same with more behind it. -/
def widerComma : List Char := "-0076,, ,+007,+03,,x, ".toList

/-- Both lines record the comma on line 3. -/
theorem wideComma_read :
    (trimmedPieces wideComma = trimmedPieces wideComma ++ [] ∧
      trimmedPieces widerComma = trimmedPieces wideComma ++ [[], ['x'], []] ∧
      Decisive (trimmedPieces wideComma)) ∧
    readRecord 9 ⟨40, 57⟩ wideComma = .ok ⟨.comma, ",", 3, 7, none, ⟨40, 57⟩⟩ ∧
    readRecord 9 ⟨40, 57⟩ widerComma = .ok ⟨.comma, ",", 3, 7, none, ⟨40, 57⟩⟩ := by
  have pieces : trimmedPieces wideComma = trimmedPieces wideComma ++ [] := by decide
  have more : trimmedPieces widerComma = trimmedPieces wideComma ++ [[], ['x'], []] := by decide
  have decisive : Decisive (trimmedPieces wideComma) := ⟨_, _, _, _, _, rfl, by decide⟩
  have read : readRecord 9 ⟨40, 57⟩ wideComma = .ok ⟨.comma, ",", 3, 7, none, ⟨40, 57⟩⟩ := by decide
  obtain ⟨-, -, later, -⟩ := record_grammar 9 ⟨40, 57⟩ wideComma
  exact ⟨⟨pieces, more, decisive⟩, read, (later widerComma _ _ _ pieces more decisive _).1 read⟩

end Pseudocode
