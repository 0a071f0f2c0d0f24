/-
  Pseudocode.Json.Value — the JSON values that tables are written as.

  Only what the tables need: integers, strings, arrays, and objects whose members keep the order
  they are listed in.
-/

namespace Pseudocode.Json

/-- A JSON value; the members of an object are ordered. -/
inductive Value where
  | integer (n : Int)
  | string (s : String)
  | array (items : List Value)
  | object (members : List (String × Value))
  deriving Repr

end Pseudocode.Json
