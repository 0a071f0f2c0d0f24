/-
  Pseudocode.Text.Numeral — reading decimal numerals.

  A numeral is a non-empty run of ASCII digits, leading zeros allowed. A natural number may carry
  a plus sign, an integer a plus or a minus sign. `natBelow?` and `intWithin?` refuse values outside
  the range a field admits. Numbers are written with `toString`, which `digits?` reads
  back (`digits?_toString`).
-/

namespace Pseudocode.Text

/-- The value of a non-empty run of digits. -/
def digits? (cs : List Char) : Option Nat :=
  if cs ≠ [] ∧ cs.all Char.isDigit then some (Nat.ofDigitChars 10 cs 0) else none

/-- A numeral with an optional plus sign. -/
def nat? : List Char → Option Nat
  | '+' :: ds => digits? ds
  | ds => digits? ds

/-- A numeral with an optional sign. -/
def int? : List Char → Option Int
  | '-' :: ds => (digits? ds).map fun n => -(n : Int)
  | ds => (nat? ds).map fun n => (n : Int)

/-- A natural number below `bound`. -/
def natBelow? (bound : Nat) (cs : List Char) : Option Nat :=
  (nat? cs).filter fun n => n < bound

/-- An integer from `low` to `high`, both included. -/
def intWithin? (low high : Int) (cs : List Char) : Option Int :=
  (int? cs).filter fun n => low ≤ n && n ≤ high

theorem digits?_toDigits (n : Nat) : digits? (Nat.toDigits 10 n) = some n := by
  have all : (Nat.toDigits 10 n).all Char.isDigit = true := by
    simp only [List.all_eq_true]
    intro c h
    exact Nat.isDigit_of_mem_toDigits (by decide) (by decide) h
  simp [digits?, all, Nat.toDigits_ne_nil]

theorem digits?_toString (n : Nat) : digits? (toString n).toList = some n := by
  simpa [Nat.toString_eq_ofList_toDigits] using digits?_toDigits n

theorem isDigit_of_mem_toString {n : Nat} {c : Char} (h : c ∈ (toString n).toList) :
    c.isDigit = true := by
  rw [Nat.toString_eq_ofList_toDigits, String.toList_ofList] at h
  exact Nat.isDigit_of_mem_toDigits (by decide) (by decide) h

theorem newline_not_mem_toString (n : Nat) : '\n' ∉ (toString n).toList := fun mem =>
  absurd (isDigit_of_mem_toString mem) (by decide)

theorem nat?_toString (n : Nat) : nat? (toString n).toList = some n := by
  unfold nat?
  split
  · rename_i ds signed
    have : Char.isDigit '+' = true :=
      isDigit_of_mem_toString (n := n) (signed ▸ List.mem_cons_self)
    cases this
  · exact digits?_toString n

theorem toList_toString_negSucc (n : Nat) :
    (toString (Int.negSucc n)).toList = '-' :: (toString (n + 1)).toList := by
  have : toString (Int.negSucc n) = "-" ++ toString (n + 1) := rfl
  rw [this, String.toList_append]
  rfl

theorem int?_toString (n : Int) : int? (toString n).toList = some n := by
  cases n with
  | ofNat n =>
    have written : toString (Int.ofNat n) = toString n := rfl
    rw [written]
    unfold int?
    split
    · rename_i ds signed
      have : Char.isDigit '-' = true :=
        isDigit_of_mem_toString (n := n) (signed ▸ List.mem_cons_self)
      cases this
    · rw [nat?_toString]
      rfl
  | negSucc n =>
    rw [toList_toString_negSucc, int?, digits?_toString]
    rfl

/-- An integer is written with digits and a minus sign. -/
theorem isDigit_of_mem_toString_int {n : Int} {c : Char} (h : c ∈ (toString n).toList) :
    c.isDigit = true ∨ c = '-' := by
  cases n with
  | ofNat n => exact .inl (isDigit_of_mem_toString (n := n) h)
  | negSucc n =>
    rw [toList_toString_negSucc] at h
    rcases List.mem_cons.1 h with rfl | h
    · exact .inr rfl
    · exact .inl (isDigit_of_mem_toString h)

theorem natBelow?_toString {bound n : Nat} (h : n < bound) :
    natBelow? bound (toString n).toList = some n := by
  rw [natBelow?, nat?_toString]
  simp [h]

theorem lt_of_natBelow? {bound n : Nat} {cs : List Char} (h : natBelow? bound cs = some n) :
    n < bound := by
  simpa using (Option.filter_eq_some_iff.1 h).2

theorem bounds_of_intWithin? {low high n : Int} {cs : List Char}
    (h : intWithin? low high cs = some n) : low ≤ n ∧ n ≤ high := by
  simpa using (Option.filter_eq_some_iff.1 h).2

theorem intWithin?_toString {low high n : Int} (le : low ≤ n) (ge : n ≤ high) :
    intWithin? low high (toString n).toList = some n := by
  rw [intWithin?, int?_toString]
  simp [le, ge]

end Pseudocode.Text
