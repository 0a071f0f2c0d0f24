/-
  Pseudocode.Lexicon.Construct — control structures that own a condition.

  `if` and `while` test a condition before what they govern, `until` behind it. A construct is
  known by the keyword in front of its condition.
-/

import Pseudocode.Lexicon.Kind

namespace Pseudocode

/-- A control structure that owns a condition. -/
inductive Construct where
  | ifThen
  | whileDo
  | repeatUntil
  deriving DecidableEq, Repr

namespace Construct

/-- The keyword in front of the condition. -/
def keyword : Construct → Kind
  | ifThen => .ifKw
  | whileDo => .whileKw
  | repeatUntil => .untilKw

/-- The construct that a keyword opens a condition of. -/
def ofKeyword? : Kind → Option Construct
  | .ifKw => some ifThen
  | .whileKw => some whileDo
  | .untilKw => some repeatUntil
  | _ => none

/-- The keyword as messages spell it. -/
def word : Construct → String
  | ifThen => "if"
  | whileDo => "while"
  | repeatUntil => "until"

theorem ofKeyword?_eq_some_iff {k : Kind} {c : Construct} :
    ofKeyword? k = some c ↔ c.keyword = k := by
  cases k <;> cases c <;> decide

end Construct

end Pseudocode
