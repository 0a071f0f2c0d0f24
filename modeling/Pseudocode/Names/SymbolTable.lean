/-
  Pseudocode.Names.SymbolTable — the names that a program declares.

  A name is known once, as the program's name or as a variable. The table keeps two stores: the
  variables, in the order of their declarations, and the address of every known name. The address
  of a variable is the number of names known before it, and a program name has address 0 and no
  symbol. A name that is already known is refused.

  - `isKnown_iff`: a name is known when the address store holds it.
  - `declareProgram_eq_none_iff`, `declare_eq_none_iff`: known names, and only those, are refused.
-/

import Pseudocode.Lexicon.Kind

namespace Pseudocode

/-- A declared variable. -/
structure Symbol where
  kind : Kind
  lexeme : String
  value : String
  scope : String
  address : Nat
  deriving DecidableEq, Repr

/-- The declared variables, and the address of every known name. -/
structure SymbolTable where
  /-- The variables, in the order of their declarations. -/
  symbols : List Symbol
  /-- The known names, program names included, each with its address. -/
  addresses : List (String × Nat)
  deriving DecidableEq, Repr

namespace SymbolTable

def empty : SymbolTable := ⟨[], []⟩

def isKnown (t : SymbolTable) (lexeme : String) : Bool := t.addresses.any (·.1 = lexeme)

def addressOf? (t : SymbolTable) (lexeme : String) : Option Nat :=
  (t.addresses.find? (·.1 = lexeme)).map Prod.snd

/-- Number of known names, program names included. -/
def knownCount (t : SymbolTable) : Nat := t.addresses.length

/-- The variable that a lexeme names. -/
def lookup? (t : SymbolTable) (lexeme : String) : Option Symbol :=
  t.symbols.find? (·.lexeme = lexeme)

/-- The declared type of a variable. -/
def typeOf? (t : SymbolTable) (lexeme : String) : Option ValueType :=
  (t.lookup? lexeme).bind (·.kind.valueType?)

/-- Makes a program name known, unless it is known already. -/
def declareProgram (t : SymbolTable) (lexeme : String) : Option SymbolTable :=
  if t.isKnown lexeme then none
  else some { t with addresses := t.addresses ++ [(lexeme, 0)] }

/-- The variable that a declaration adds. -/
def newSymbol (t : SymbolTable) (lexeme : String) (type : ValueType) (scope : String) : Symbol :=
  { kind := type.identifierKind, lexeme, value := type.initialValue, scope,
    address := t.knownCount }

/-- Makes a variable known and gives its address, unless the name is known already. -/
def declare (t : SymbolTable) (lexeme : String) (type : ValueType) (scope : String) :
    Option (Nat × SymbolTable) :=
  if t.isKnown lexeme then none
  else
    some (t.knownCount,
      { symbols := t.symbols ++ [t.newSymbol lexeme type scope]
        addresses := t.addresses ++ [(lexeme, t.knownCount)] })

/-! ## Knowing a name -/

theorem isKnown_iff {t : SymbolTable} {lexeme : String} :
    t.isKnown lexeme = true ↔ ∃ known ∈ t.addresses, known.1 = lexeme := by
  simp [isKnown]

/-- A name is known when it has an address. -/
theorem isSome_addressOf? (t : SymbolTable) (lexeme : String) :
    (t.addressOf? lexeme).isSome = t.isKnown lexeme := by
  rw [addressOf?, Option.isSome_map, isKnown, Bool.eq_iff_iff, List.find?_isSome, List.any_eq_true]

/-! ## Declaring -/

theorem declareProgram_eq_none_iff {t : SymbolTable} {lexeme : String} :
    t.declareProgram lexeme = none ↔ t.isKnown lexeme = true := by
  simp [declareProgram]

theorem declare_eq_none_iff {t : SymbolTable} {lexeme : String} {type : ValueType}
    {scope : String} : t.declare lexeme type scope = none ↔ t.isKnown lexeme = true := by
  simp [declare]

end SymbolTable

end Pseudocode
