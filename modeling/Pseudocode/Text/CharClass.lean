/-
  Pseudocode.Text.CharClass — classes of characters given by their boundaries.

  A Unicode property holds on stretches of code points. A class lists, in ascending order, the
  code points at which membership changes: the start of a stretch, the first code point after it,
  and so on. A character belongs to the class when an odd number of boundaries are at or below it.
-/

namespace Pseudocode.Text

/-- A set of characters; membership changes at each boundary, and nothing below the first one is
a member. -/
structure CharClass where
  boundaries : List Nat

namespace CharClass

def contains (cls : CharClass) (c : Char) : Bool :=
  (cls.boundaries.takeWhile (· ≤ c.toNat)).length % 2 == 1

end CharClass

end Pseudocode.Text
