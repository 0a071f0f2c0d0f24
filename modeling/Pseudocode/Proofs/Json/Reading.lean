/-
  Pseudocode.Proofs.Json.Reading — printed values are read back.

  The printer writes a small part of the grammar: whole numbers, escapes by a letter or by two
  hexadecimal digits behind two zeros, gaps of a newline and spaces. The rules of the grammar are
  followed along the printed text, with any text behind it, so that the parts of a value can be put
  together.

  Proved:
  (1) A written integer has no zero that could be left out, so it is a number of the grammar
      (`number_toString`).
  (2) The written form of a character stands for that character (`letter_escapeChar`), so a quoted
      string is read as the string (`letters_quote`).
  (3) A value is read back in each layout and at each depth (`reads_print`), so its text denotes it
      and nothing else (`denotes_text_iff`).
-/

import Pseudocode.Json.Printer
import Pseudocode.Proofs.Json.Grammar

namespace Pseudocode.Json

open Text

/-! ## Integers -/

/-- A positive number is written without a zero in front. -/
theorem head?_toDigits {n : Nat} (pos : 0 < n) : (Nat.toDigits 10 n).head? ≠ some '0' := by
  induction n using Nat.strongRecOn with
  | ind n ih =>
    have single : ∀ k < 10, 0 < k → [k.digitChar].head? ≠ some '0' := by decide
    by_cases small : n < 10
    · rw [Nat.toDigits_of_lt_base small]
      exact single n small pos
    · have front := ih (n / 10) (by omega) (by omega)
      obtain ⟨d, more, e⟩ :=
        List.exists_cons_of_ne_nil (Nat.toDigits_ne_nil (n := n / 10) (b := 10))
      rw [Nat.toDigits_of_base_le (by decide) (by omega), e]
      rw [e] at front
      exact front

theorem whole_toString (n : Nat) : Whole (toString n).toList n := by
  refine ⟨digits?_toString n, ?_⟩
  rw [Nat.toString_eq_ofList_toDigits, String.toList_ofList]
  rcases Nat.eq_zero_or_pos n with rfl | pos
  · exact .inl rfl
  · exact .inr (head?_toDigits pos)

theorem unsigned_toString (n : Nat) : Unsigned (toString n).toList n := by
  have := Unsigned.mk (whole_toString n) .absent .absent
  simpa using this

/-- A written integer is a number. -/
theorem number_toString (n : Int) (r : List Char) : Number ((toString n).toList ++ r) n r := by
  refine ⟨_, ?_, rfl⟩
  cases n with
  | ofNat n =>
    have : ((Int.ofNat n : Int) : ℚ) = (n : ℚ) := by simp
    rw [this]
    exact .positive (unsigned_toString n)
  | negSucc n =>
    have : ((Int.negSucc n : Int) : ℚ) = -((n + 1 : Nat) : ℚ) := by simp [Int.cast_negSucc]
    rw [this, toList_toString_negSucc]
    exact .negative (unsigned_toString (n + 1))

/-! ## Strings -/

theorem hexDigit?_digitChar : ∀ k < 16, hexDigit? (Nat.digitChar k) = some k := by decide

/-- The two digits of a character below U+0020, behind two zeros, are its code. -/
theorem codeUnit?_digitChar {n : Nat} (h : n < 0x20) :
    codeUnit? '0' '0' (Nat.digitChar (n / 16)) (Nat.digitChar (n % 16)) = some n := by
  have zero : hexDigit? '0' = some 0 := by decide
  rw [codeUnit?, zero, hexDigit?_digitChar (n / 16) (by omega),
    hexDigit?_digitChar (n % 16) (by omega)]
  show some _ = some n
  congr 1
  omega

/-- What is written for a character stands for it. -/
theorem letter_escapeChar (c : Char) (r : List Char) : Letter (escapeChar c ++ r) c r := by
  unfold escapeChar
  split
  case h_8 quote backslash _ _ _ _ _ =>
    split
    · rename_i control
      have unit := Letter.unit r (codeUnit?_digitChar control)
        (by simp [isHighSurrogate]; omega) (by simp [isLowSurrogate]; omega)
      rw [Char.ofNat_toNat] at unit
      exact unit
    · rename_i visible
      exact .plain r (by omega) quote backslash
  all_goals exact .escaped r rfl

theorem letters_flatMap (cs r : List Char) : Letters (cs.flatMap escapeChar ++ '"' :: r) cs r := by
  induction cs with
  | nil => exact .close r
  | cons c cs ih =>
    rw [List.flatMap_cons, List.append_assoc]
    exact .letter (letter_escapeChar c _) ih

/-- The text between quotes, with the quote behind it, is read as the string. -/
theorem quote_append (s : String) (r : List Char) :
    ∃ t, quote s.toList ++ r = '"' :: t ∧ Letters t s.toList r := by
  refine ⟨s.toList.flatMap escapeChar ++ '"' :: r, ?_, letters_flatMap _ r⟩
  simp [quote]

/-! ## Values -/

mutual

/-- What a value denotes. -/
def Value.datum : Value → Datum
  | .integer n => .number n
  | .string s => .string s
  | .array items => .array (itemData items)
  | .object members => .object (memberData members)

def itemData : List Value → List Datum
  | [] => []
  | v :: more => v.datum :: itemData more

def memberData : List (String × Value) → List (String × Datum)
  | [] => []
  | (name, v) :: more => (name, v.datum) :: memberData more

end

theorem itemData_eq_map (vs : List Value) : itemData vs = vs.map Value.datum := by
  induction vs with
  | nil => rfl
  | cons v vs ih => rw [itemData, ih, List.map_cons]

theorem space_gap (layout : Layout) (depth : Nat) (r : List Char) :
    Space (layout.gap depth ++ r) r := by
  refine ⟨layout.gap depth, ?_, rfl⟩
  intro c mem
  cases layout with
  | compact => cases mem
  | pretty =>
    rcases List.mem_cons.1 mem with rfl | mem
    · decide
    · rw [List.eq_of_mem_replicate mem]
      decide

/-- The name of a printed member is read, up to the value. -/
theorem name_quote (layout : Layout) (depth : Nat) (name : String) (r : List Char) :
    ∃ t, Name (layout.gap depth ++ (quote name.toList ++ (layout.colon ++ r))) name t ∧
      Space t r := by
  obtain ⟨t, written, letters⟩ := quote_append name (layout.colon ++ r)
  rw [written]
  have before := space_gap layout depth ('"' :: t)
  cases layout with
  | compact =>
    exact ⟨r, ⟨t, _, _, before, letters, String.ofList_toList.symm, .refl _⟩, .refl r⟩
  | pretty =>
    refine ⟨' ' :: r, ⟨t, _, _, before, letters, String.ofList_toList.symm, .refl _⟩, [' '], ?_,
      rfl⟩
    intro c mem
    rw [List.mem_singleton.1 mem]
    rfl

mutual

/-- A printed value is read back, whatever stands behind it. -/
theorem reads_print (layout : Layout) (depth : Nat) :
    ∀ (v : Value) (r : List Char), Reads .value (print layout depth v ++ r) v.datum r
  | .integer n, r => .number (number_toString n r)
  | .string s, r => by
    obtain ⟨t, written, letters⟩ := quote_append s r
    rw [print, written]
    have := Reads.string letters
    rw [String.ofList_toList] at this
    exact this
  | .array [], r => .emptyArray (.refl _)
  | .array (v :: more), r => by
    have items := reads_items layout depth v (reads_print layout (depth + 1) v) more r
    simp only [print, printItems, List.cons_append, List.append_assoc, List.nil_append] at items ⊢
    exact .array items
  | .object [], r => .emptyObject (.refl _)
  | .object ((name, v) :: more), r => by
    have members := reads_members layout depth name v (reads_print layout (depth + 1) v) more r
    simp only [print, printMembers, List.cons_append, List.append_assoc, List.nil_append]
      at members ⊢
    exact .object members

theorem reads_items (layout : Layout) (depth : Nat) (v : Value)
    (first : ∀ r, Reads .value (print layout (depth + 1) v ++ r) v.datum r) :
    ∀ (more : List Value) (r : List Char),
      Reads .items (layout.gap (depth + 1) ++ (print layout (depth + 1) v ++
        (printMoreItems layout depth more ++ ']' :: r))) (.array (itemData (v :: more))) r
  | [], r => .lastItem (space_gap _ _ _) (first _) (space_gap _ _ _)
  | next :: more, r => by
    have items := reads_items layout depth next (reads_print layout (depth + 1) next) more r
    simp only [printMoreItems, List.cons_append, List.append_assoc]
    exact .item (space_gap _ _ _) (first _) (.refl _) items

theorem reads_members (layout : Layout) (depth : Nat) (name : String) (v : Value)
    (first : ∀ r, Reads .value (print layout (depth + 1) v ++ r) v.datum r) :
    ∀ (more : List (String × Value)) (r : List Char),
      Reads .members (layout.gap (depth + 1) ++ (quote name.toList ++ (layout.colon ++
        (print layout (depth + 1) v ++ (printMoreMembers layout depth more ++ '\x7d' :: r)))))
        (.object (memberData ((name, v) :: more))) r
  | [], r => by
    obtain ⟨t, read, blanks⟩ := name_quote layout (depth + 1) name
      (print layout (depth + 1) v ++ (printMoreMembers layout depth [] ++ '\x7d' :: r))
    exact .lastMember read blanks (first _) (space_gap _ _ _)
  | (next, w) :: more, r => by
    have members := reads_members layout depth next w (reads_print layout (depth + 1) w) more r
    obtain ⟨t, read, blanks⟩ := name_quote layout (depth + 1) name
      (print layout (depth + 1) v ++ (printMoreMembers layout depth ((next, w) :: more) ++
        '\x7d' :: r))
    refine .member read blanks (first _) ?_ members
    simp only [printMoreMembers, List.cons_append, List.append_assoc]
    exact .refl _

end

/-- The text of a value denotes that value and nothing else, in each layout. -/
theorem denotes_text_iff {layout : Layout} {v : Value} {d : Datum} :
    Denotes (v.text layout).toList d ↔ d = v.datum := by
  have read : Denotes (v.text layout).toList v.datum := by
    have := reads_print layout 0 v []
    rw [List.append_nil] at this
    rw [Value.text, String.toList_ofList]
    exact ⟨_, [], .refl _, this, .refl []⟩
  constructor
  · intro h
    exact h.unique read
  · rintro rfl
    exact read

end Pseudocode.Json
