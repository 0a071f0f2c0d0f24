/-
  Pseudocode.Check.Assignment — what may be assigned to a variable.

  A rule looks at the set of kinds that occur in an expression. The rules of int, real and string
  forbid kinds: relational and logical operators, program names, and whatever does not fit the
  type. The rule of boolean requires one of the two truth values. When several forbidden kinds
  occur, the one that is first in declaration order is reported, wherever it stands.
-/

import Pseudocode.Lexicon.KindSet
import Pseudocode.Check.Settings
import Pseudocode.Check.Sections

namespace Pseudocode

/-- What an expression must not, or must, contain. -/
inductive AssignmentRule where
  | forbid (kinds : KindSet)
  | require (kinds : KindSet)
  deriving DecidableEq, Repr

/-- How an expression breaks a rule. -/
inductive Violation where
  | notAllowed (kind : Kind)
  | noTruthValue
  deriving DecidableEq, Repr

def Violation.reason : Violation → String
  | .notAllowed kind => s!"{kind.name} is not allowed in the expression"
  | .noTruthValue => "expression contains neither 'true' nor 'false'"

namespace AssignmentRule

/-- Kinds that no rule admits: operators that make a condition, and program names. -/
def neverAssigned : KindSet :=
  (KindSet.matching Kind.isConditionOperator).union (KindSet.ofList [.generalId])

/-- The rule for a target of a type. -/
def ofType : ValueType → AssignmentRule
  | .int =>
    .forbid (neverAssigned.union (KindSet.ofList
      [.realId, .stringId, .booleanId, .realConst, .stringConst, .trueConst, .falseConst]))
  | .real =>
    .forbid (neverAssigned.union (KindSet.ofList
      [.stringId, .booleanId, .stringConst, .trueConst, .falseConst]))
  | .string =>
    .forbid (neverAssigned.union (KindSet.ofList
      [.intId, .realId, .booleanId, .intConst, .realConst, .trueConst, .falseConst]))
  | .boolean => .require (KindSet.ofList [.trueConst, .falseConst])

/-- How the kinds found in an expression break a rule, if they do. -/
def violation? (rule : AssignmentRule) (found : KindSet) : Option Violation :=
  match rule with
  | .forbid kinds => (found.inter kinds).toList.head?.map .notAllowed
  | .require kinds => if found.intersects kinds then none else some .noTruthValue

theorem violation?_forbid_eq_none_iff {kinds found : KindSet} :
    (forbid kinds).violation? found = none ↔
      ∀ k, found.contains k = true → kinds.contains k = false := by
  simp only [violation?, Option.map_eq_none_iff, List.head?_eq_none_iff,
    List.eq_nil_iff_forall_not_mem, KindSet.mem_toList, KindSet.contains_inter]
  simp

end AssignmentRule

/-- The kinds that occur among tokens. -/
def kindsOf (tokens : List Token) : KindSet := KindSet.ofList (tokens.map Token.kind)

theorem contains_kindsOf {tokens : List Token} {k : Kind} :
    (kindsOf tokens).contains k = true ↔ ∃ t ∈ tokens, t.kind = k := by
  simp [kindsOf]

/-- Judges an expression that is assigned to `token`, a variable of a type. -/
def judgeAssignment (token : Token) (type : ValueType) (expression : List Token) :
    Except Fault Unit :=
  match (AssignmentRule.ofType type).violation? (kindsOf expression) with
  | none => .ok ()
  | some v => .error (.invalidAssignment token.place type.name v.reason)

/-- Checks the assignment whose target is `token`, at `index` in the stream; `target` is the type
that the target was declared with, and a program name has none. -/
def checkAssignment (scan : AssignmentScan) (tokens : List Token) (index : Nat) (token : Token)
    (target : Option ValueType) : Traced Unit :=
  match scan with
  | .statement =>
    match beforeSemicolon (tokens.drop (index + 2)) with
    | none => .refuse (.unterminated token.place "';' ending the assignment")
    | some expression =>
      match target with
      | none =>
        .refuse (.invalidAssignment token.place "program" "the program name cannot be assigned")
      | some type => .lift (judgeAssignment token type expression)
  | .leading =>
    match beforeSemicolon tokens with
    | none => .refuse (.unterminated token.place "the first ';' of the stream")
    | some statement =>
      match tokens.head?.bind (·.kind.valueType?) with
      | none => .note (.untypedTargetAccepted token.lexeme)
      | some type => .lift (judgeAssignment token type statement)

/-- Whether the token at `index` is followed by the assignment operator. -/
def isAssigned (tokens : List Token) (index : Nat) : Bool :=
  tokens[index + 1]?.any (·.kind = .assign)

end Pseudocode
