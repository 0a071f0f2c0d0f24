/-
  Pseudocode.Lexicon.Kind — the token kinds of the pseudocode language.

  A token stream arrives already classified: every token carries one of forty-six kinds, written
  as a negative code. The kinds fall into families (keywords, operators of four classes,
  identifiers, constants, punctuation). Four identifier kinds carry the value type that a
  variable is declared with; the fifth, `generalId`, names the program.

  - `Kind.mem_all`, `Kind.nodup_all`: `all` lists every kind, each once.
  - `Kind.getElem?_all`: a kind stands in `all` at its rank.
  - `Kind.ofCode?_eq_some_iff`: a code names at most one kind, the one that is written so.
-/

namespace Pseudocode

/-- Value types that a variable can be declared with. -/
inductive ValueType where
  | int
  | real
  | string
  | boolean
  deriving DecidableEq, Repr

/-- Token kinds, in the order of their codes. -/
inductive Kind where
  -- keywords
  | programKw | beginKw | endKw | readKw | writeKw | ifKw | elseKw | whileKw | repeatKw
  | untilKw | intKw | realKw | stringKw | booleanKw | varKw | thenKw | doKw
  -- operators
  | mul | div | mod | add | sub | assign | lt | le | gt | ge | eq | ne | and | or | not
  -- identifiers
  | intId | realId | stringId | booleanId | generalId
  -- constants
  | intConst | realConst | stringConst | trueConst | falseConst
  -- punctuation
  | leftParen | rightParen | semicolon | comma
  deriving DecidableEq, Repr

/-- What an operator computes. -/
inductive OperatorClass where
  | arithmetic
  | assignment
  | relational
  | logical
  deriving DecidableEq, Repr

/-- Lexical families. -/
inductive Family where
  | keyword
  | operator (cls : OperatorClass)
  | identifier
  | constant
  | punctuation
  deriving DecidableEq, Repr

namespace Kind

/-- Every kind, in declaration order. -/
def all : List Kind :=
  [.programKw, .beginKw, .endKw, .readKw, .writeKw, .ifKw, .elseKw, .whileKw, .repeatKw,
   .untilKw, .intKw, .realKw, .stringKw, .booleanKw, .varKw, .thenKw, .doKw, .mul, .div, .mod,
   .add, .sub, .assign, .lt, .le, .gt, .ge, .eq, .ne, .and, .or, .not, .intId, .realId,
   .stringId, .booleanId, .generalId, .intConst, .realConst, .stringConst, .trueConst,
   .falseConst, .leftParen, .rightParen, .semicolon, .comma]

/-- Place of a kind in the declaration order, from 0. -/
def rank (k : Kind) : Nat := k.ctorIdx

/-- The number that stands for a kind in records and tables. -/
def code : Kind → Int
  | .programKw => -1 | .beginKw => -2 | .endKw => -3 | .readKw => -4 | .writeKw => -5
  | .ifKw => -6 | .elseKw => -7 | .whileKw => -8 | .repeatKw => -9 | .untilKw => -10
  | .intKw => -11 | .realKw => -12 | .stringKw => -13 | .booleanKw => -14 | .varKw => -15
  | .thenKw => -16 | .doKw => -17 | .mul => -21 | .div => -22 | .mod => -23 | .add => -24
  | .sub => -25 | .assign => -26 | .lt => -31 | .le => -32 | .gt => -33 | .ge => -34
  | .eq => -35 | .ne => -36 | .and => -41 | .or => -42 | .not => -43 | .intId => -51
  | .realId => -52 | .stringId => -53 | .booleanId => -54 | .generalId => -55
  | .intConst => -61 | .realConst => -62 | .stringConst => -63 | .trueConst => -64
  | .falseConst => -65 | .leftParen => -73 | .rightParen => -74 | .semicolon => -75
  | .comma => -76

/-- The kind written with code `n`. -/
def ofCode? (n : Int) : Option Kind := all.find? (·.code = n)

/-- A kind as messages name it. -/
def name : Kind → String
  | .programKw => "'program'" | .beginKw => "'begin'" | .endKw => "'end'" | .readKw => "'read'"
  | .writeKw => "'write'" | .ifKw => "'if'" | .elseKw => "'else'" | .whileKw => "'while'"
  | .repeatKw => "'repeat'" | .untilKw => "'until'" | .intKw => "'int'" | .realKw => "'real'"
  | .stringKw => "'string'" | .booleanKw => "'boolean'" | .varKw => "'var'"
  | .thenKw => "'then'" | .doKw => "'do'" | .mul => "'*'" | .div => "'/'" | .mod => "'%'"
  | .add => "'+'" | .sub => "'-'" | .assign => "assignment" | .lt => "'<'" | .le => "'<='"
  | .gt => "'>'" | .ge => "'>='" | .eq => "'=='" | .ne => "'!='" | .and => "'and'"
  | .or => "'or'" | .not => "'not'" | .intId => "int identifier" | .realId => "real identifier"
  | .stringId => "string identifier" | .booleanId => "boolean identifier"
  | .generalId => "untyped identifier" | .intConst => "int constant"
  | .realConst => "real constant" | .stringConst => "string constant" | .trueConst => "'true'"
  | .falseConst => "'false'" | .leftParen => "'('" | .rightParen => "')'" | .semicolon => "';'"
  | .comma => "','"

/-- A kind as a token dump spells it. -/
def label : Kind → String
  | .programKw => "Program" | .beginKw => "Begin" | .endKw => "End" | .readKw => "Read"
  | .writeKw => "Write" | .ifKw => "If" | .elseKw => "Else" | .whileKw => "While"
  | .repeatKw => "Repeat" | .untilKw => "Until" | .intKw => "IntKw" | .realKw => "RealKw"
  | .stringKw => "StringKw" | .booleanKw => "BooleanKw" | .varKw => "Var" | .thenKw => "Then"
  | .doKw => "Do" | .mul => "Mul" | .div => "Div" | .mod => "Mod" | .add => "Add"
  | .sub => "Sub" | .assign => "Assign" | .lt => "Lt" | .le => "Le" | .gt => "Gt" | .ge => "Ge"
  | .eq => "Eq" | .ne => "Ne" | .and => "And" | .or => "Or" | .not => "Not" | .intId => "IntId"
  | .realId => "RealId" | .stringId => "StringId" | .booleanId => "BooleanId"
  | .generalId => "GeneralId" | .intConst => "IntConst" | .realConst => "RealConst"
  | .stringConst => "StringConst" | .trueConst => "True" | .falseConst => "False"
  | .leftParen => "LParen" | .rightParen => "RParen" | .semicolon => "Semicolon"
  | .comma => "Comma"

/-- Lexical family of a kind. -/
def family : Kind → Family
  | .programKw | .beginKw | .endKw | .readKw | .writeKw | .ifKw | .elseKw | .whileKw
  | .repeatKw | .untilKw | .intKw | .realKw | .stringKw | .booleanKw | .varKw | .thenKw | .doKw => .keyword
  | .mul | .div | .mod | .add | .sub => .operator .arithmetic
  | .assign => .operator .assignment
  | .lt | .le | .gt | .ge | .eq | .ne => .operator .relational
  | .and | .or | .not => .operator .logical
  | .intId | .realId | .stringId | .booleanId | .generalId => .identifier
  | .intConst | .realConst | .stringConst | .trueConst | .falseConst => .constant
  | .leftParen | .rightParen | .semicolon | .comma => .punctuation

def isIdentifier (k : Kind) : Bool := k.family = .identifier

def isArithmetic (k : Kind) : Bool := k.family = .operator .arithmetic

def isRelational (k : Kind) : Bool := k.family = .operator .relational

def isLogical (k : Kind) : Bool := k.family = .operator .logical

/-- A condition is made by a relational or a logical operator. -/
def isConditionOperator (k : Kind) : Bool := k.isRelational || k.isLogical

/-- Value type of a typed identifier; no other kind carries one. -/
def valueType? : Kind → Option ValueType
  | .intId => some .int
  | .realId => some .real
  | .stringId => some .string
  | .booleanId => some .boolean
  | _ => none

theorem mem_all (k : Kind) : k ∈ all := by cases k <;> decide

theorem nodup_all : all.Nodup := by decide

theorem getElem?_all (k : Kind) : all[k.rank]? = some k := by cases k <;> rfl

theorem rank_lt (k : Kind) : k.rank < 46 := by cases k <;> decide

theorem rank_injective {j k : Kind} (h : j.rank = k.rank) : j = k := by
  have := getElem?_all j
  rw [h, getElem?_all k] at this
  exact (Option.some.inj this).symm

theorem map_rank_all : all.map rank = List.range 46 := rfl

theorem exists_rank_eq {i : Nat} (h : i < 46) : ∃ k : Kind, k.rank = i := by
  have : i ∈ all.map rank := map_rank_all ▸ List.mem_range.2 h
  obtain ⟨k, -, hk⟩ := List.mem_map.1 this
  exact ⟨k, hk⟩

theorem ofCode?_code (k : Kind) : ofCode? k.code = some k := by cases k <;> decide

theorem ofCode?_eq_some_iff {n : Int} {k : Kind} : ofCode? n = some k ↔ k.code = n := by
  refine ⟨fun h => ?_, fun h => h ▸ ofCode?_code k⟩
  simpa using List.find?_some h

/-- Identifiers are the four typed kinds and the untyped one. -/
theorem isIdentifier_iff {k : Kind} :
    k.isIdentifier = true ↔ k.valueType?.isSome = true ∨ k = .generalId := by
  cases k <;> decide

end Kind

namespace ValueType

/-- A type as messages name it. -/
def name : ValueType → String
  | .int => "int"
  | .real => "real"
  | .string => "string"
  | .boolean => "boolean"

/-- Value that a variable has before its first assignment. -/
def initialValue : ValueType → String
  | .int => "0"
  | .real => "0.0"
  | .string => "null"
  | .boolean => "true"

/-- The identifier kind that carries a type. -/
def identifierKind : ValueType → Kind
  | .int => .intId
  | .real => .realId
  | .string => .stringId
  | .boolean => .booleanId

@[simp] theorem valueType?_identifierKind (t : ValueType) : t.identifierKind.valueType? = some t := by
  cases t <;> rfl

theorem identifierKind_of_valueType? {k : Kind} {t : ValueType} (h : k.valueType? = some t) :
    t.identifierKind = k := by
  cases k <;> simp [Kind.valueType?] at h <;> subst h <;> rfl

end ValueType

end Pseudocode
