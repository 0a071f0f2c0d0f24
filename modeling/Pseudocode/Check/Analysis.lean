/-
  Pseudocode.Check.Analysis — the analysis of a token stream.

  The declarations come first. Every occurrence of a program name opens a scope, and a new one is
  recorded in the address table. A variable must be new, its declaration must end with a
  semicolon, and the token before that semicolon must name its type; it is declared in the scope
  opened last. Then, in the body, every identifier must be known; one that is followed by the
  assignment operator starts an assignment, which is checked, and one that stands two tokens after
  a condition's keyword starts a condition, which is checked too.

  Every identifier is resolved to the address of its name at the moment it is met. The first fault
  ends the analysis.
-/

import Pseudocode.Names.SymbolTable
import Pseudocode.Names.AddressTable
import Pseudocode.Check.Condition

namespace Pseudocode

/-- What an analysis counts. -/
structure Tally where
  tokens : Nat := 0
  declarations : Nat := 0
  references : Nat := 0
  assignments : Nat := 0
  conditions : Nat := 0
  deriving DecidableEq, Repr

/-- What is known so far. -/
structure State where
  symbols : SymbolTable := .empty
  programs : AddressTable := .empty
  scopes : ScopeStack := .empty
  tally : Tally := {}
  deriving DecidableEq, Repr

/-- The result of an analysis that found no fault. -/
structure Analysis where
  /-- The stream, with every identifier resolved. -/
  tokens : List Token
  symbols : SymbolTable
  programs : AddressTable
  tally : Tally
  deriving DecidableEq, Repr

/-! ## Declarations -/

/-- The word that ends the declaration of the identifier at `index`. -/
def announcedType? (declarations : List Token) (index : Nat) : Option String :=
  (beforeSemicolon (declarations.drop index)).bind fun ts => ts.getLast?.map Token.lexeme

/-- Declares the program name `token`. -/
def declareProgram (token : Token) (state : State) : Traced (Token × State) := do
  let state := { state with scopes := state.scopes.push token.lexeme }
  let state ← match state.symbols.declareProgram token.lexeme with
    | none => pure state
    | some symbols => do
      .note (.programNamed token.lexeme token.line)
      pure { state with symbols, programs := state.programs.record token.lexeme token.line }
  match state.symbols.addressOf? token.lexeme with
  | none => pure (token, state)
  | some address => pure (token.resolve address, state)

/-- Declares the variable `token`, at `index` among the declarations. -/
def declareVariable (settings : Settings) (declarations : List Token) (index : Nat)
    (token : Token) (type : ValueType) (state : State) : Traced (Token × State) :=
  let scope := state.scopes.current?.getD settings.defaultScope
  match state.symbols.declare token.lexeme type scope with
  | none => .refuse (.duplicateDeclaration token.place)
  | some (address, symbols) =>
    match announcedType? declarations index with
    | none => .refuse (.unterminated token.place "';' ending the declaration")
    | some announced =>
      if announced = settings.dialect.typeName type then do
        .note (.variableDeclared type token.lexeme address scope)
        let tally := { state.tally with declarations := state.tally.declarations + 1 }
        pure (token.resolve address, { state with symbols, tally })
      else
        .refuse (.typeMismatch token.place (settings.dialect.typeName type) announced)

/-- The step that a token of the declarations causes. -/
def declareToken (settings : Settings) (declarations : List Token) (index : Nat) (token : Token)
    (state : State) : Traced (Token × State) :=
  if token.isIdentifier then
    match token.kind.valueType? with
    | none => declareProgram token state
    | some type => declareVariable settings declarations index token type state
  else
    pure (token, state)

/-! ## The body -/

def Tally.countReference (t : Tally) : Tally := { t with references := t.references + 1 }

def Tally.countAssignment (t : Tally) : Tally := { t with assignments := t.assignments + 1 }

def Tally.countCondition (t : Tally) : Tally := { t with conditions := t.conditions + 1 }

/-- The address of a name that the body uses. -/
def resolveReference (symbols : SymbolTable) (token : Token) : Traced Nat :=
  match symbols.addressOf? token.lexeme with
  | none => .refuse (.undeclared token.place)
  | some address => do
    .note (.referenceResolved token.lexeme token.line address)
    pure address

/-- Checks the assignment that the identifier `token` starts, if it starts one. -/
def checkIfAssigned (settings : Settings) (tokens : List Token) (index : Nat) (token : Token)
    (symbols : SymbolTable) (tally : Tally) : Traced Tally :=
  if isAssigned tokens index then do
    checkAssignment settings.scan tokens index token (symbols.typeOf? token.lexeme)
    pure tally.countAssignment
  else
    pure tally

/-- Checks the condition that the identifier `token` starts, if it starts one. -/
def checkIfCondition (tokens : List Token) (index : Nat) (token : Token) (tally : Tally) :
    Traced Tally :=
  match constructAt? tokens index with
  | none => pure tally
  | some construct => do
    checkCondition construct tokens index token
    pure tally.countCondition

/-- The step that a token of the body, at `index` in the stream, causes. -/
def useToken (settings : Settings) (tokens : List Token) (index : Nat) (token : Token)
    (state : State) : Traced (Token × State) :=
  if token.isIdentifier then do
    let address ← resolveReference state.symbols token
    let tally := state.tally.countReference
    let tally ← checkIfAssigned settings tokens index token state.symbols tally
    let tally ← checkIfCondition tokens index token tally
    pure (token.resolve address, { state with tally })
  else
    pure (token, state)

/-! ## The whole stream -/

/-- Takes a step for each token, from position `index` on, and collects the tokens that the steps
give back. -/
def walk (step : Nat → Token → State → Traced (Token × State)) :
    Nat → List Token → State → Traced (List Token × State)
  | _, [], state => pure ([], state)
  | index, token :: rest, state => do
    let (token, state) ← step index token state
    let (rest, state) ← walk step (index + 1) rest state
    pure (token :: rest, state)

/-- A walk takes the first step and walks on from where it leads. -/
theorem outcome_walk_cons (step : Nat → Token → State → Traced (Token × State)) (index : Nat)
    (token : Token) (rest : List Token) (state : State) :
    (walk step index (token :: rest) state).outcome =
      (step index token state).outcome >>= fun first =>
        (walk step (index + 1) rest first.2).outcome >>= fun more =>
          .ok (first.1 :: more.1, more.2) := by
  simp [walk]

/-- Analyses a token stream. -/
def analyze (settings : Settings) (tokens : List Token) : Traced Analysis := do
  let sections ← .lift (Sections.split tokens)
  .note (.sectionsFound sections.declarations.length sections.body.length)
  let start : State := { tally := { tokens := tokens.length } }
  let (declarations, state) ←
    walk (declareToken settings sections.declarations) 0 sections.declarations start
  let (body, state) ←
    walk (useToken settings tokens) sections.declarations.length sections.body state
  .note (.analysisComplete state.symbols.symbols.length state.tally.references)
  pure
    { tokens := declarations ++ body
      symbols := state.symbols
      programs := state.programs
      tally := state.tally }

end Pseudocode
