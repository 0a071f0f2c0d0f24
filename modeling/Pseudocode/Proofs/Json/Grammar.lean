/-
  Pseudocode.Proofs.Json.Grammar — the grammar of JSON, and that it is unambiguous.

  Nothing here knows how tables are printed. A rule relates the text that is left, what its front
  means, and the text that is left behind it; a whole text is one value with blanks on both sides.
  All of the grammar is here, whether the printer writes it or not: literals, fractions, exponents,
  every escape. A number means a rational, an object its members in order. Four hexadecimal digits
  stand for a character or for half of a surrogate pair, and half a pair alone stands for nothing.

  A rule may stop early: a number may end in front of a digit. What follows a value in a text is a
  blank, a comma, a bracket or the end, and none of them goes on with a number (`Closed`). Behind
  such a rest there is one meaning only.

  Proved:
  (1) What number a text in front of a closed rest is, and where it ends, is told by the text
      (`Number.unique`), and so are the characters of a string (`Letters.unique`).
  (2) So are a value, the items of an array and the members of an object (`Reads.unique`), by
      induction on the way that one of them is read.
  (3) A text denotes at most one datum (`Denotes.unique`).
-/

import Mathlib.Data.Rat.Cast.Defs
import Pseudocode.Text.Blank
import Pseudocode.Text.Numeral

namespace Pseudocode.Json

open Text

/-! ## Data -/

/-- What a JSON text denotes; the members of an object are ordered. -/
inductive Datum where
  | null
  | boolean (b : Bool)
  | number (q : ℚ)
  | string (s : String)
  | array (items : List Datum)
  | object (members : List (String × Datum))

/-! ## Blanks -/

def isSpace (c : Char) : Bool := c = ' ' || c = '\t' || c = '\n' || c = '\r'

/-- Any number of blanks. -/
def Space (s r : List Char) : Prop := ∃ u, (∀ c ∈ u, isSpace c = true) ∧ s = u ++ r

/-! ## Numbers -/

/-- Digits in front of the point, without a zero that could be left out. -/
def Whole (ds : List Char) (n : Nat) : Prop :=
  digits? ds = some n ∧ (ds = ['0'] ∨ ds.head? ≠ some '0')

inductive Fraction : List Char → ℚ → Prop
  | absent : Fraction [] 0
  | present {ds : List Char} {n : Nat} : digits? ds = some n →
      Fraction ('.' :: ds) (n / 10 ^ ds.length)

def isExponentMark (c : Char) : Bool := c = 'e' || c = 'E'

/-- The sign of an exponent. -/
inductive Sign : List Char → Int → Prop
  | absent : Sign [] 1
  | plus : Sign ['+'] 1
  | minus : Sign ['-'] (-1)

inductive Exponent : List Char → Int → Prop
  | absent : Exponent [] 0
  | present {e : Char} {g ds : List Char} {k : Int} {n : Nat} : isExponentMark e = true →
      Sign g k → digits? ds = some n → Exponent (e :: (g ++ ds)) (k * n)

/-- A number without a sign in front. -/
inductive Unsigned : List Char → ℚ → Prop
  | mk {w f x : List Char} {n : Nat} {q : ℚ} {k : Int} : Whole w n → Fraction f q →
      Exponent x k → Unsigned (w ++ (f ++ x)) ((n + q) * 10 ^ k)

inductive Signed : List Char → ℚ → Prop
  | positive {u : List Char} {q : ℚ} : Unsigned u q → Signed u q
  | negative {u : List Char} {q : ℚ} : Unsigned u q → Signed ('-' :: u) (-q)

def Number (s : List Char) (q : ℚ) (r : List Char) : Prop := ∃ u, Signed u q ∧ s = u ++ r

/-! ## Strings -/

/-- The character that an escape by one letter stands for. -/
def letter? : Char → Option Char
  | '"' => some '"'
  | '\\' => some '\\'
  | '/' => some '/'
  | 'b' => some '\x08'
  | 'f' => some '\x0c'
  | 'n' => some '\n'
  | 'r' => some '\r'
  | 't' => some '\t'
  | _ => none

def hexDigit? (c : Char) : Option Nat :=
  if 48 ≤ c.toNat ∧ c.toNat ≤ 57 then some (c.toNat - 48)
  else if 65 ≤ c.toNat ∧ c.toNat ≤ 70 then some (c.toNat - 55)
  else if 97 ≤ c.toNat ∧ c.toNat ≤ 102 then some (c.toNat - 87)
  else none

/-- Four hexadecimal digits. -/
def codeUnit? (a b c d : Char) : Option Nat := do
  let a ← hexDigit? a
  let b ← hexDigit? b
  let c ← hexDigit? c
  let d ← hexDigit? d
  pure (((a * 16 + b) * 16 + c) * 16 + d)

def isHighSurrogate (n : Nat) : Bool := 0xD800 ≤ n && n < 0xDC00

def isLowSurrogate (n : Nat) : Bool := 0xDC00 ≤ n && n < 0xE000

/-- One character of a string. -/
inductive Letter : List Char → Char → List Char → Prop
  | plain {c : Char} (r : List Char) : 0x20 ≤ c.toNat → c ≠ '"' → c ≠ '\\' → Letter (c :: r) c r
  | escaped {e c : Char} (r : List Char) : letter? e = some c → Letter ('\\' :: e :: r) c r
  | unit {a b c d : Char} {n : Nat} (r : List Char) : codeUnit? a b c d = some n →
      isHighSurrogate n = false → isLowSurrogate n = false →
      Letter ('\\' :: 'u' :: a :: b :: c :: d :: r) (Char.ofNat n) r
  | pair {a b c d a' b' c' d' : Char} {high low : Nat} (r : List Char) :
      codeUnit? a b c d = some high → isHighSurrogate high = true →
      codeUnit? a' b' c' d' = some low → isLowSurrogate low = true →
      Letter ('\\' :: 'u' :: a :: b :: c :: d :: '\\' :: 'u' :: a' :: b' :: c' :: d' :: r)
        (Char.ofNat (0x10000 + (high - 0xD800) * 0x400 + (low - 0xDC00))) r

/-- The characters of a string, with the quote behind them. -/
inductive Letters : List Char → List Char → List Char → Prop
  | close (r : List Char) : Letters ('"' :: r) [] r
  | letter {s t r cs : List Char} {c : Char} : Letter s c t → Letters t cs r → Letters s (c :: cs) r

/-! ## Values -/

/-- The name of a member, with the colon behind it. -/
def Name (s : List Char) (name : String) (r : List Char) : Prop :=
  ∃ t cs u, Space s ('"' :: t) ∧ Letters t cs u ∧ name = String.ofList cs ∧ Space u (':' :: r)

/-- What is read: a value, or what an array or an object has behind its opening bracket when it is
not empty, the closing bracket included. -/
inductive Phrase where
  | value
  | items
  | members
  deriving DecidableEq

inductive Reads : Phrase → List Char → Datum → List Char → Prop
  | null (r : List Char) : Reads .value ('n' :: 'u' :: 'l' :: 'l' :: r) .null r
  | yes (r : List Char) : Reads .value ('t' :: 'r' :: 'u' :: 'e' :: r) (.boolean true) r
  | no (r : List Char) : Reads .value ('f' :: 'a' :: 'l' :: 's' :: 'e' :: r) (.boolean false) r
  | number {s r : List Char} {q : ℚ} : Number s q r → Reads .value s (.number q) r
  | string {s cs r : List Char} : Letters s cs r →
      Reads .value ('"' :: s) (.string (String.ofList cs)) r
  | emptyArray {s r : List Char} : Space s (']' :: r) → Reads .value ('[' :: s) (.array []) r
  | array {s r : List Char} {d : Datum} : Reads .items s d r → Reads .value ('[' :: s) d r
  | emptyObject {s r : List Char} : Space s ('\x7d' :: r) →
      Reads .value ('\x7b' :: s) (.object []) r
  | object {s r : List Char} {d : Datum} : Reads .members s d r → Reads .value ('\x7b' :: s) d r
  | lastItem {s t u r : List Char} {d : Datum} : Space s t → Reads .value t d u →
      Space u (']' :: r) → Reads .items s (.array [d]) r
  | item {s t u w r : List Char} {d : Datum} {more : List Datum} : Space s t → Reads .value t d u →
      Space u (',' :: w) → Reads .items w (.array more) r → Reads .items s (.array (d :: more)) r
  | lastMember {s n t u r : List Char} {name : String} {d : Datum} : Name s name n → Space n t →
      Reads .value t d u → Space u ('\x7d' :: r) → Reads .members s (.object [(name, d)]) r
  | member {s n t u w r : List Char} {name : String} {d : Datum} {more : List (String × Datum)} :
      Name s name n → Space n t → Reads .value t d u → Space u (',' :: w) →
      Reads .members w (.object more) r → Reads .members s (.object ((name, d) :: more)) r

/-- A JSON text denotes a datum. -/
def Denotes (text : List Char) (d : Datum) : Prop :=
  ∃ s r, Space text s ∧ Reads .value s d r ∧ Space r []

/-! ## Where blanks and digits end -/

theorem Space.refl (r : List Char) : Space r r := ⟨[], by simp, rfl⟩

/-- What stands behind blanks is told by the text, unless it begins with a blank. -/
theorem Space.unique {s r r' : List Char} {c c' : Char} (h : Space s (c :: r))
    (h' : Space s (c' :: r')) (hc : isSpace c = false) (hc' : isSpace c' = false) :
    c = c' ∧ r = r' := by
  obtain ⟨u, blanks, rfl⟩ := h
  obtain ⟨u', blanks', e⟩ := h'
  have rests := (append_inj_of_all blanks blanks' (by simpa using hc) (by simpa using hc') e).2
  exact List.cons.inj rests

/-! ## Numbers end in one place -/

/-- A rest that does not go on with a number. -/
def Closed (r : List Char) : Prop :=
  ∀ c ∈ r.head?, c.isDigit = false ∧ c ≠ '.' ∧ isExponentMark c = false

section Numbers

variable {f f' x x' u u' r r' t t' ds ds' s : List Char} {n n' : Nat} {q q' : ℚ} {k k' : Int}
  {c : Char}

theorem isDigit_of_digits? (h : digits? ds = some n) : ∀ c ∈ ds, c.isDigit = true := by
  rw [digits?] at h
  split at h
  · rename_i digits
    exact List.all_eq_true.1 digits.2
  · cases h

theorem exists_cons_of_digits? (h : digits? ds = some n) :
    ∃ d more, ds = d :: more ∧ d.isDigit = true := by
  cases ds with
  | nil => cases h
  | cons d more => exact ⟨d, more, rfl, isDigit_of_digits? h d List.mem_cons_self⟩

/-- A run of digits is told by a text that goes on with something else. -/
theorem digits_unique (h : digits? ds = some n) (h' : digits? ds' = some n')
    (ht : ∀ c ∈ t.head?, c.isDigit = false) (ht' : ∀ c ∈ t'.head?, c.isDigit = false)
    (e : ds ++ t = ds' ++ t') : ds = ds' ∧ n = n' ∧ t = t' := by
  obtain ⟨rfl, rfl⟩ :=
    append_inj_of_all (isDigit_of_digits? h) (isDigit_of_digits? h') ht ht' e
  exact ⟨rfl, Option.some.inj (h.symm.trans h'), rfl⟩

theorem isExponentMark_iff : isExponentMark c = true ↔ c = 'e' ∨ c = 'E' := by
  simp [isExponentMark]

/-- What an exponent and a closed rest begin with is no digit and no point. -/
theorem Exponent.head (h : Exponent x k) (hr : Closed r) :
    ∀ c ∈ (x ++ r).head?, c.isDigit = false ∧ c ≠ '.' := by
  have mark {e : Char} (h : isExponentMark e = true) : e.isDigit = false ∧ e ≠ '.' := by
    rcases isExponentMark_iff.1 h with rfl | rfl <;> decide
  intro c hc
  cases h with
  | absent => exact ⟨(hr c hc).1, (hr c hc).2.1⟩
  | present he => exact Option.some.inj hc ▸ mark he

theorem Fraction.head (h : Fraction f q) (ht : ∀ c ∈ t.head?, c.isDigit = false) :
    ∀ c ∈ (f ++ t).head?, c.isDigit = false := by
  intro c hc
  cases h with
  | absent => exact ht c hc
  | present _ =>
    rw [← Option.some.inj hc]
    decide

/-- A sign in front of digits is told by the text. -/
theorem Sign.unique {g g' : List Char} (h : Sign g k) (h' : Sign g' k')
    (hs : ∀ c ∈ s.head?, c.isDigit = true) (ht : ∀ c ∈ t.head?, c.isDigit = true)
    (e : g ++ s = g' ++ t) : k = k' ∧ s = t := by
  cases h with
  | absent =>
    cases h' with
    | absent => exact ⟨rfl, e⟩
    | plus => exact absurd (hs '+' (congrArg List.head? e)) (by decide)
    | minus => exact absurd (hs '-' (congrArg List.head? e)) (by decide)
  | plus =>
    cases h' with
    | absent => exact absurd (ht '+' (congrArg List.head? e.symm)) (by decide)
    | plus => exact ⟨rfl, (List.cons.inj e).2⟩
    | minus => exact absurd (List.cons.inj e).1 (by decide)
  | minus =>
    cases h' with
    | absent => exact absurd (ht '-' (congrArg List.head? e.symm)) (by decide)
    | plus => exact absurd (List.cons.inj e).1 (by decide)
    | minus => exact ⟨rfl, (List.cons.inj e).2⟩

theorem Exponent.unique (h : Exponent x k) (h' : Exponent x' k') (hr : Closed r) (hr' : Closed r')
    (e : x ++ r = x' ++ r') : k = k' ∧ r = r' := by
  have unmarked {e : Char} {s r : List Char} (he : isExponentMark e = true) (hr : Closed r)
      (same : e :: s = r) : False := by
    have := (hr e (by rw [← same]; rfl)).2.2
    rw [he] at this
    cases this
  have first {ds r : List Char} {n : Nat} (h : digits? ds = some n) :
      ∀ c ∈ (ds ++ r).head?, c.isDigit = true := by
    obtain ⟨d, more, rfl, digit⟩ := exists_cons_of_digits? h
    intro c hc
    exact Option.some.inj hc ▸ digit
  cases h with
  | absent =>
    cases h' with
    | absent => exact ⟨rfl, e⟩
    | present he => exact (unmarked he hr e.symm).elim
  | present he sign digits =>
    cases h' with
    | absent => exact (unmarked he hr' e).elim
    | present _ sign' digits' =>
      rw [List.cons_append, List.cons_append, List.append_assoc, List.append_assoc] at e
      obtain ⟨rfl, e⟩ := sign.unique sign' (first digits) (first digits') (List.cons.inj e).2
      obtain ⟨-, rfl, rest⟩ := digits_unique digits digits' (fun c hc => (hr c hc).1)
        (fun c hc => (hr' c hc).1) e
      exact ⟨rfl, rest⟩

theorem Fraction.unique (h : Fraction f q) (h' : Fraction f' q')
    (ht : ∀ c ∈ t.head?, c.isDigit = false ∧ c ≠ '.')
    (ht' : ∀ c ∈ t'.head?, c.isDigit = false ∧ c ≠ '.') (e : f ++ t = f' ++ t') :
    q = q' ∧ t = t' := by
  have pointless {s t : List Char} (ht : ∀ c ∈ t.head?, c.isDigit = false ∧ c ≠ '.')
      (same : [] ++ t = '.' :: s) : False := by
    rw [List.nil_append] at same
    exact (ht '.' (by rw [same]; rfl)).2 rfl
  cases h with
  | absent =>
    cases h' with
    | absent => exact ⟨rfl, e⟩
    | present => exact (pointless ht e).elim
  | present digits =>
    cases h' with
    | absent => exact (pointless ht' e.symm).elim
    | present digits' =>
      obtain ⟨rfl, rfl, rest⟩ := digits_unique digits digits' (fun c hc => (ht c hc).1)
        (fun c hc => (ht' c hc).1) (List.cons.inj e).2
      exact ⟨rfl, rest⟩

theorem Unsigned.unique (h : Unsigned u q) (h' : Unsigned u' q') (hr : Closed r) (hr' : Closed r')
    (e : u ++ r = u' ++ r') : q = q' ∧ r = r' := by
  obtain ⟨whole, fraction, exponent⟩ := h
  obtain ⟨whole', fraction', exponent'⟩ := h'
  simp only [List.append_assoc] at e
  obtain ⟨-, rfl, e⟩ := digits_unique whole.1 whole'.1
    (fraction.head fun c hc => (exponent.head hr c hc).1)
    (fraction'.head fun c hc => (exponent'.head hr' c hc).1) e
  obtain ⟨rfl, e⟩ := fraction.unique fraction' (exponent.head hr) (exponent'.head hr') e
  obtain ⟨rfl, rest⟩ := exponent.unique exponent' hr hr' e
  exact ⟨rfl, rest⟩

theorem Unsigned.head (h : Unsigned u q) : ∃ c more, u = c :: more ∧ c.isDigit = true := by
  obtain ⟨whole, -, -⟩ := h
  obtain ⟨c, more, rfl, digit⟩ := exists_cons_of_digits? whole.1
  exact ⟨c, _, rfl, digit⟩

/-- A number begins with a sign or a digit. -/
theorem Number.head (h : Number s q r) :
    ∃ c more, s = c :: more ∧ (c = '-' ∨ c.isDigit = true) := by
  obtain ⟨u, signed, rfl⟩ := h
  cases signed with
  | positive unsigned =>
    obtain ⟨c, more, rfl, digit⟩ := unsigned.head
    exact ⟨c, _, rfl, .inr digit⟩
  | negative => exact ⟨'-', _, rfl, .inl rfl⟩

theorem Number.not_letter (h : Number (c :: s) q r) : (c = '-' || c.isDigit) = true := by
  obtain ⟨c', more, same, rfl | digit⟩ := h.head
  · rw [(List.cons.inj same).1]
    rfl
  · rw [(List.cons.inj same).1, digit, Bool.or_true]

/-- A number in front of a closed rest is told by the text. -/
theorem Number.unique (h : Number s q r) (h' : Number s q' r') (hr : Closed r) (hr' : Closed r') :
    q = q' ∧ r = r' := by
  obtain ⟨u, signed, rfl⟩ := h
  obtain ⟨u', signed', e⟩ := h'
  have positive {u s r : List Char} {q : ℚ} (h : Unsigned u q) (e : u ++ r = '-' :: s) : False := by
    obtain ⟨c, more, rfl, digit⟩ := h.head
    rw [(List.cons.inj e).1] at digit
    cases digit
  cases signed with
  | positive unsigned =>
    cases signed' with
    | positive unsigned' => exact unsigned.unique unsigned' hr hr' e
    | negative => exact (positive unsigned e).elim
  | negative unsigned =>
    cases signed' with
    | positive unsigned' => exact (positive unsigned' e.symm).elim
    | negative unsigned' =>
      obtain ⟨rfl, rest⟩ := unsigned.unique unsigned' hr hr' (List.cons.inj e).2
      exact ⟨rfl, rest⟩

end Numbers

/-! ## Strings end in one place -/

/-- A character of a string is told by the text. -/
theorem Letter.unique {s r r' : List Char} {c c' : Char} (h : Letter s c r) (h' : Letter s c' r') :
    c = c' ∧ r = r' := by
  cases h with
  | plain _ low quote backslash =>
    cases h' with
    | plain => exact ⟨rfl, rfl⟩
    | escaped | unit | pair => exact absurd rfl backslash
  | escaped _ letter =>
    cases h' with
    | plain _ _ _ backslash => exact absurd rfl backslash
    | escaped _ letter' => exact ⟨Option.some.inj (letter.symm.trans letter'), rfl⟩
    | unit | pair => cases letter
  | unit _ unit high low =>
    cases h' with
    | plain _ _ _ backslash => exact absurd rfl backslash
    | escaped _ letter => cases letter
    | unit _ unit' =>
      obtain rfl := Option.some.inj (unit.symm.trans unit')
      exact ⟨rfl, rfl⟩
    | pair _ unit' high' =>
      obtain rfl := Option.some.inj (unit.symm.trans unit')
      rw [high] at high'
      cases high'
  | pair _ first high second low =>
    cases h' with
    | plain _ _ _ backslash => exact absurd rfl backslash
    | escaped _ letter => cases letter
    | unit _ unit' high' =>
      obtain rfl := Option.some.inj (first.symm.trans unit')
      rw [high] at high'
      cases high'
    | pair _ first' _ second' =>
      obtain rfl := Option.some.inj (first.symm.trans first')
      obtain rfl := Option.some.inj (second.symm.trans second')
      exact ⟨rfl, rfl⟩

theorem Letter.head {s r : List Char} {c e : Char} (h : Letter (e :: s) c r) : e ≠ '"' := by
  cases h with
  | plain _ _ quote => exact quote
  | escaped | unit | pair => decide

theorem Letters.unique {s cs cs' r r' : List Char} (h : Letters s cs r) (h' : Letters s cs' r') :
    cs = cs' ∧ r = r' := by
  induction h generalizing cs' with
  | close r =>
    cases h' with
    | close => exact ⟨rfl, rfl⟩
    | letter first => exact absurd rfl first.head
  | letter first _ ih =>
    cases h' with
    | close => exact absurd rfl first.head
    | letter first' more' =>
      obtain ⟨rfl, rfl⟩ := first.unique first'
      obtain ⟨rfl, rest⟩ := ih more'
      exact ⟨rfl, rest⟩

/-! ## Values end in one place -/

theorem Name.unique {s r r' : List Char} {name name' : String} (h : Name s name r)
    (h' : Name s name' r') : name = name' ∧ r = r' := by
  obtain ⟨t, cs, u, blanks, letters, rfl, colon⟩ := h
  obtain ⟨t', cs', u', blanks', letters', rfl, colon'⟩ := h'
  obtain ⟨-, rfl⟩ := blanks.unique blanks' (by decide) (by decide)
  obtain ⟨rfl, rfl⟩ := letters.unique letters'
  exact ⟨rfl, (colon.unique colon' (by decide) (by decide)).2⟩

/-- Characters that a value begins with. -/
def opens (c : Char) : Bool :=
  c = 'n' || c = 't' || c = 'f' || c = '"' || c = '[' || c = '\x7b' || c = '-' || c.isDigit

theorem Reads.head {s r : List Char} {d : Datum} (h : Reads .value s d r) :
    ∃ c more, s = c :: more ∧ opens c = true := by
  cases h with
  | number number =>
    obtain ⟨c, more, rfl, rfl | digit⟩ := number.head
    · exact ⟨'-', more, rfl, by decide⟩
    · exact ⟨c, more, rfl, by simp [opens, digit]⟩
  | null | yes | no | string | emptyArray | array | emptyObject | object =>
    exact ⟨_, _, rfl, by decide⟩

theorem isSpace_of_opens {c : Char} (h : opens c = true) : isSpace c = false := by
  cases hc : isSpace c with
  | false => rfl
  | true =>
    simp only [isSpace, Bool.or_eq_true, decide_eq_true_eq] at hc
    rcases hc with ((rfl | rfl) | rfl) | rfl <;> cases h

/-- Blanks in front of a value are told by the text. -/
theorem Reads.unique_start {s t t' r r' : List Char} {d d' : Datum} (hs : Space s t)
    (hs' : Space s t') (h : Reads .value t d r) (h' : Reads .value t' d' r') : t = t' := by
  obtain ⟨c, more, rfl, opens⟩ := h.head
  obtain ⟨c', more', rfl, opens'⟩ := h'.head
  obtain ⟨rfl, rfl⟩ := hs.unique hs' (isSpace_of_opens opens) (isSpace_of_opens opens')
  rfl

/-- Behind a value, a rest of blanks and then a character that does not go on with a number. -/
theorem Space.closed {u r : List Char} (h : Space u r) (hr : Closed r) : Closed u := by
  obtain ⟨blanks, all, rfl⟩ := h
  cases blanks with
  | nil => exact hr
  | cons c more =>
    intro c' hc
    obtain rfl := Option.some.inj hc
    have blank := all c List.mem_cons_self
    simp only [isSpace, Bool.or_eq_true, decide_eq_true_eq] at blank
    rcases blank with ((rfl | rfl) | rfl) | rfl <;> decide

/-- Characters that stand behind an item or a member. -/
def ends (c : Char) : Bool := c = ',' || c = ']' || c = '\x7d'

theorem ends_iff {c : Char} : ends c = true ↔ c = ',' ∨ c = ']' ∨ c = '\x7d' := by
  simp [ends, or_assoc]

theorem isSpace_of_ends {c : Char} (h : ends c = true) : isSpace c = false := by
  rcases ends_iff.1 h with rfl | rfl | rfl <;> decide

theorem closed_of_ends {c : Char} (h : ends c = true) (r : List Char) : Closed (c :: r) := by
  intro e he
  obtain rfl := Option.some.inj he
  rcases ends_iff.1 h with rfl | rfl | rfl <;> decide

/-- A value between blanks, with a comma or a bracket behind it, is told by the text, when the value
is told by what is left behind the blanks. -/
theorem unique_between {s t t' u u' r r' : List Char} {d d' : Datum} {c c' : Char}
    (before : Space s t) (value : Reads .value t d u) (behind : Space u (c :: r))
    (before' : Space s t') (value' : Reads .value t' d' u') (behind' : Space u' (c' :: r'))
    (hc : ends c = true) (hc' : ends c' = true)
    (told : ∀ {d' r'}, Reads .value t d' r' → Closed u → Closed r' → d = d' ∧ u = r') :
    d = d' ∧ c = c' ∧ r = r' := by
  obtain rfl := value.unique_start before before' value'
  obtain ⟨rfl, rfl⟩ := told value' (behind.closed (closed_of_ends hc r))
    (behind'.closed (closed_of_ends hc' r'))
  exact ⟨rfl, behind.unique behind' (isSpace_of_ends hc) (isSpace_of_ends hc')⟩

/-- What begins with a blank and a closing bracket is neither an item nor a member. -/
theorem Space.not_reads {p : Phrase} {s r r' : List Char} {d : Datum} {c : Char} (ne : p ≠ .value)
    (closing : Space s (c :: r)) (hc : ends c = true) (h : Reads p s d r') : False := by
  cases h with
  | lastItem before value | item before value =>
    obtain ⟨e, more, rfl, opens⟩ := value.head
    obtain ⟨rfl, -⟩ := before.unique closing (isSpace_of_opens opens) (isSpace_of_ends hc)
    rcases ends_iff.1 hc with rfl | rfl | rfl <;> cases opens
  | lastMember name | member name =>
    obtain ⟨t, cs, u, before, -⟩ := name
    obtain ⟨rfl, -⟩ := before.unique closing (by decide) (isSpace_of_ends hc)
    cases hc
  | _ => exact ne rfl

/-- What the meaning of a phrase may depend on behind it. -/
def Phrase.Settled : Phrase → List Char → Prop
  | .value, r => Closed r
  | .items, _ => True
  | .members, _ => True

theorem Reads.unique {p : Phrase} {s r r' : List Char} {d d' : Datum} (h : Reads p s d r)
    (h' : Reads p s d' r') (hr : p.Settled r) (hr' : p.Settled r') : d = d' ∧ r = r' := by
  induction h generalizing d' r' with
  | null r | yes r | no r =>
    cases h' with
    | number number => exact absurd number.not_letter (by decide)
    | _ => exact ⟨rfl, rfl⟩
  | number number =>
    cases h' with
    | number number' =>
      obtain ⟨rfl, rest⟩ := number.unique number' hr hr'
      exact ⟨rfl, rest⟩
    | _ => exact absurd number.not_letter (by decide)
  | string letters =>
    cases h' with
    | number number => exact absurd number.not_letter (by decide)
    | string letters' =>
      obtain ⟨rfl, rest⟩ := letters.unique letters'
      exact ⟨rfl, rest⟩
  | emptyArray space =>
    cases h' with
    | number number => exact absurd number.not_letter (by decide)
    | emptyArray space' =>
      exact ⟨rfl, (space.unique space' (by decide) (by decide)).2⟩
    | array items => exact (space.not_reads (by decide) (by decide) items).elim
  | array items ih =>
    cases h' with
    | number number => exact absurd number.not_letter (by decide)
    | emptyArray space => exact (space.not_reads (by decide) (by decide) items).elim
    | array items' => exact ih items' trivial trivial
  | emptyObject space =>
    cases h' with
    | number number => exact absurd number.not_letter (by decide)
    | emptyObject space' =>
      exact ⟨rfl, (space.unique space' (by decide) (by decide)).2⟩
    | object members => exact (space.not_reads (by decide) (by decide) members).elim
  | object members ih =>
    cases h' with
    | number number => exact absurd number.not_letter (by decide)
    | emptyObject space => exact (space.not_reads (by decide) (by decide) members).elim
    | object members' => exact ih members' trivial trivial
  | lastItem before value behind ih =>
    cases h' with
    | lastItem before' value' behind' =>
      obtain ⟨rfl, -, rest⟩ := unique_between before value behind before' value' behind'
        (by decide) (by decide) ih
      exact ⟨rfl, rest⟩
    | item before' value' behind' =>
      have := unique_between before value behind before' value' behind' (by decide) (by decide) ih
      exact absurd this.2.1 (by decide)
  | item before value behind _ ih told =>
    cases h' with
    | lastItem before' value' behind' =>
      have := unique_between before value behind before' value' behind' (by decide) (by decide) ih
      exact absurd this.2.1 (by decide)
    | item before' value' behind' more' =>
      obtain ⟨rfl, -, rfl⟩ := unique_between before value behind before' value' behind'
        (by decide) (by decide) ih
      obtain ⟨same, rest⟩ := told more' trivial trivial
      rw [Datum.array.inj same]
      exact ⟨rfl, rest⟩
  | lastMember name before value behind ih =>
    cases h' with
    | lastMember name' before' value' behind' =>
      obtain ⟨rfl, rfl⟩ := name.unique name'
      obtain ⟨rfl, -, rest⟩ := unique_between before value behind before' value' behind'
        (by decide) (by decide) ih
      exact ⟨rfl, rest⟩
    | member name' before' value' behind' =>
      obtain ⟨rfl, rfl⟩ := name.unique name'
      have := unique_between before value behind before' value' behind' (by decide) (by decide) ih
      exact absurd this.2.1 (by decide)
  | member name before value behind _ ih told =>
    cases h' with
    | lastMember name' before' value' behind' =>
      obtain ⟨rfl, rfl⟩ := name.unique name'
      have := unique_between before value behind before' value' behind' (by decide) (by decide) ih
      exact absurd this.2.1 (by decide)
    | member name' before' value' behind' more' =>
      obtain ⟨rfl, rfl⟩ := name.unique name'
      obtain ⟨rfl, -, rfl⟩ := unique_between before value behind before' value' behind'
        (by decide) (by decide) ih
      obtain ⟨same, rest⟩ := told more' trivial trivial
      rw [Datum.object.inj same]
      exact ⟨rfl, rest⟩

/-- A text denotes one datum at most. -/
theorem Denotes.unique {text : List Char} {d d' : Datum} (h : Denotes text d)
    (h' : Denotes text d') : d = d' := by
  obtain ⟨s, r, before, value, behind⟩ := h
  obtain ⟨s', r', before', value', behind'⟩ := h'
  have closed : Closed [] := fun c hc => nomatch hc
  obtain rfl := value.unique_start before before' value'
  exact (value.unique value' (behind.closed closed) (behind'.closed closed)).1

end Pseudocode.Json
