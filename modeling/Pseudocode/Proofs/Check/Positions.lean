/-
  Pseudocode.Proofs.Check.Positions — what a token stream says at each of its positions.

  Nothing here has a state: every definition reads the stream as it was given. `m` is the position
  of the first body-begin keyword, so the declarations are the positions below `m`.

  A name is introduced by the first identifier that carries it. From that alone follow what a name
  is declared as, the scope of a declaration (the program name read last before it) and, counting
  the distinct names in front of a position, the address that a variable declared there gets.

  `faultAt?` is the first check that a position fails. A typed identifier among the declarations
  must be new, its declaration must end with a semicolon before the body, and the token in front of
  that semicolon must name its type. An identifier of the body must have been introduced among the
  declarations; if it starts an assignment or a condition, that one must pass its check.

  Proved:
  (1) The requests that the declarations make of the symbol table find a name where it is
      introduced (`find?_requests`), so what is known, and as what, is told by the introducer
      (`isKnown_tableAt`, `typeOf?_tableAt`).
  (2) As many names are known as the stream has distinct ones (`knownCount_tableAt`).
  (3) If no typed identifier repeats a name, every one of them has its own symbol
      (`symbols_tableAt`).
-/

import Pseudocode.Check.Analysis
import Pseudocode.Proofs.Names.History
import Mathlib.Data.Finset.Card

namespace Pseudocode

/-! ## Names -/

/-- Whether a token is an occurrence of a name. -/
def Token.names (t : Token) (x : String) : Bool := t.isIdentifier && decide (t.lexeme = x)

/-- The first identifier that carries a name. -/
def introducer? (tokens : List Token) (x : String) : Option Token := tokens.find? (·.names x)

/-- The lexemes of all identifiers. -/
def identifierNames (tokens : List Token) : List String :=
  (tokens.filter Token.isIdentifier).map Token.lexeme

/-- Number of distinct names. -/
def distinctNames (tokens : List Token) : Nat := (identifierNames tokens).toFinset.card

/-- The scope that is open behind some tokens: the program name read last. -/
def scopeAfter (settings : Settings) (tokens : List Token) : String :=
  ((tokens.reverse.find? (·.kind = .generalId)).map Token.lexeme).getD settings.defaultScope

/-! ## What a position must pass -/

/-- A check as the fault that it finds. -/
def Traced.fault? {α : Type} (x : Traced α) : Option Fault :=
  match x.outcome with
  | .error fault => some fault
  | .ok _ => none

/-- Position of the first semicolon strictly between `i` and `m`. -/
def nextSemicolon? (tokens : List Token) (i m : Nat) : Option Nat :=
  (((tokens.take m).drop (i + 1)).findIdx? Token.isSemicolon).map (i + 1 + ·)

/-- The token in front of the first semicolon strictly between `i` and `m`. -/
def announcement? (tokens : List Token) (i m : Nat) : Option Token :=
  (nextSemicolon? tokens i m).bind fun semicolon => tokens[semicolon - 1]?

theorem lt_of_nextSemicolon? {tokens : List Token} {i m s : Nat}
    (found : nextSemicolon? tokens i m = some s) : i < s ∧ s < m ∧ s < tokens.length := by
  obtain ⟨n, hn, rfl⟩ := Option.map_eq_some_iff.1 found
  obtain ⟨inside, -⟩ := List.findIdx?_eq_some_iff_getElem.1 hn
  rw [List.length_drop, List.length_take] at inside
  omega

/-- What is wrong with the declaration of `t`, an identifier of a type, at `i`. -/
def declarationFault? (settings : Settings) (tokens : List Token) (m i : Nat) (t : Token)
    (type : ValueType) : Option Fault :=
  if (introducer? (tokens.take i) t.lexeme).isSome then some (.duplicateDeclaration t.place)
  else
    match announcement? tokens i m with
    | none => some (.unterminated t.place "';' ending the declaration")
    | some word =>
      if word.lexeme = settings.dialect.typeName type then none
      else some (.typeMismatch t.place (settings.dialect.typeName type) word.lexeme)

/-- What is wrong with the assignment that `t` starts at `i`, if it starts one; `target` is the
type that its name was introduced with. -/
def assignmentFault? (scan : AssignmentScan) (tokens : List Token) (i : Nat) (t : Token)
    (target : Option ValueType) : Option Fault :=
  if tokens[i + 1]?.any (·.kind = .assign) then (checkAssignment scan tokens i t target).fault?
  else none

/-- The construct whose keyword stands two tokens before `i`. -/
def keywordBefore? (tokens : List Token) (i : Nat) : Option Construct :=
  if 2 ≤ i then tokens[i - 2]?.bind (Construct.ofKeyword? ·.kind) else none

/-- What is wrong with the condition that `t` starts at `i`, if it starts one. -/
def conditionFault? (tokens : List Token) (i : Nat) (t : Token) : Option Fault :=
  (keywordBefore? tokens i).bind fun construct => (checkCondition construct tokens i t).fault?

/-- What is wrong with `t`, an identifier of the body, at `i`. -/
def referenceFault? (settings : Settings) (tokens : List Token) (m i : Nat) (t : Token) :
    Option Fault :=
  match introducer? (tokens.take m) t.lexeme with
  | none => some (.undeclared t.place)
  | some first =>
    (assignmentFault? settings.scan tokens i t first.kind.valueType?).or (conditionFault? tokens i t)

/-- What is wrong at position `i`. -/
def faultAt? (settings : Settings) (tokens : List Token) (m i : Nat) : Option Fault :=
  tokens[i]?.bind fun t =>
    if t.isIdentifier then
      if i < m then t.kind.valueType?.bind (declarationFault? settings tokens m i t)
      else referenceFault? settings tokens m i t
    else none

/-! ## What a position counts as -/

/-- Whether the body has an identifier at `i`. -/
def isReferenceAt (tokens : List Token) (m i : Nat) : Bool :=
  decide (m ≤ i) && tokens[i]?.any Token.isIdentifier

/-- Whether that identifier starts an assignment. -/
def startsAssignmentAt (tokens : List Token) (m i : Nat) : Bool :=
  isReferenceAt tokens m i && tokens[i + 1]?.any (·.kind = .assign)

/-- Whether that identifier starts a condition. -/
def startsConditionAt (tokens : List Token) (m i : Nat) : Bool :=
  isReferenceAt tokens m i && decide (2 ≤ i) &&
    tokens[i - 2]?.any (fun t => t.kind ∈ [.ifKw, .whileKw, .untilKw])

/-! ## What a position adds to the tables -/

/-- The symbol of the typed identifier at `i`. -/
def symbolAt? (settings : Settings) (tokens : List Token) (i : Nat) : Option Symbol :=
  tokens[i]?.bind fun t =>
    t.kind.valueType?.map fun type =>
      { kind := t.kind
        lexeme := t.lexeme
        value := type.initialValue
        scope := scopeAfter settings (tokens.take i)
        address := distinctNames (tokens.take i) }

/-- The entry of the program name at `i`, if it introduces its name. -/
def programAt? (tokens : List Token) (i : Nat) : Option AddressEntry :=
  tokens[i]?.bind fun t =>
    if t.kind = .generalId ∧ introducer? (tokens.take i) t.lexeme = none then
      some { kind := .generalId, lexeme := t.lexeme, line := t.line, vci := 0 }
    else none

/-- What the identifier at `i` asks of the symbol table, if it is declared there. -/
def requestAt? (settings : Settings) (tokens : List Token) (i : Nat) : Option Request :=
  tokens[i]?.bind fun t =>
    if t.isIdentifier then
      match t.kind.valueType? with
      | none => some (.program t.lexeme)
      | some type => some (.var t.lexeme type (scopeAfter settings (tokens.take i)))
    else none

/-- The requests of the first `k` positions, in order. -/
def requests (settings : Settings) (tokens : List Token) (k : Nat) : List Request :=
  (List.range k).filterMap (requestAt? settings tokens)

/-- The symbol table behind the declarations at the first `k` positions. -/
def tableAt (settings : Settings) (tokens : List Token) (k : Nat) : SymbolTable :=
  SymbolTable.after (requests settings tokens k)

/-! ## One position more -/

theorem filterMap_range_succ {α : Type} (f : Nat → Option α) (k : Nat) :
    (List.range (k + 1)).filterMap f = (List.range k).filterMap f ++ (f k).toList := by
  rw [List.range_succ, List.filterMap_append]
  cases h : f k <;> simp [h]

theorem take_concat {tokens : List Token} {k : Nat} {t : Token} (ht : tokens[k]? = some t) :
    tokens.take (k + 1) = tokens.take k ++ [t] := by
  rw [List.take_add_one, ht]
  rfl

theorem take_succ_of_none {tokens : List Token} {k : Nat} (ht : tokens[k]? = none) :
    tokens.take (k + 1) = tokens.take k := by
  rw [List.take_add_one, ht]
  exact List.append_nil _

theorem introducer?_concat (tokens : List Token) (t : Token) (x : String) :
    introducer? (tokens ++ [t]) x =
      (introducer? tokens x).or (if t.names x then some t else none) := by
  unfold introducer?
  rw [List.find?_append, List.find?_singleton]

theorem introducer?_isSome_iff {tokens : List Token} {x : String} :
    (introducer? tokens x).isSome = true ↔ x ∈ identifierNames tokens := by
  unfold introducer?
  rw [List.find?_isSome]
  simp [Token.names, identifierNames, and_assoc]

/-- A name is introduced in front of a position when an identifier there carries it. -/
theorem isSome_introducer?_take_iff {tokens : List Token} {j : Nat} {x : String} :
    (introducer? (tokens.take j) x).isSome = true ↔
      ∃ i < j, ∃ t, tokens[i]? = some t ∧ t.isIdentifier = true ∧ t.lexeme = x := by
  rw [introducer?_isSome_iff, identifierNames, List.mem_map]
  constructor
  · rintro ⟨t, mem, e⟩
    obtain ⟨mem, hid⟩ := List.mem_filter.1 mem
    obtain ⟨i, ht⟩ := List.getElem?_of_mem mem
    rw [List.getElem?_take] at ht
    split at ht
    · exact ⟨i, ‹i < j›, t, ht, hid, e⟩
    · cases ht
  · rintro ⟨i, lt, t, ht, hid, e⟩
    refine ⟨t, List.mem_filter.2 ⟨?_, hid⟩, e⟩
    exact List.mem_of_getElem? (by rw [List.getElem?_take, if_pos lt, ht])

theorem Token.isIdentifier_of_valueType? {t : Token} {type : ValueType}
    (hv : t.kind.valueType? = some type) : t.isIdentifier = true :=
  Kind.isIdentifier_iff.2 (.inl (by rw [hv]; rfl))

/-- An identifier without a type names a program. -/
theorem Token.kind_of_untyped {t : Token} (hid : t.isIdentifier = true)
    (hv : t.kind.valueType? = none) : t.kind = .generalId := by
  rcases Kind.isIdentifier_iff.1 hid with typed | program
  · rw [hv] at typed
    cases typed
  · exact program

section FaultAt

variable {settings : Settings} {tokens : List Token} {m i : Nat} {t : Token}

theorem faultAt?_of_not_identifier (ht : tokens[i]? = some t) (hid : t.isIdentifier = false) :
    faultAt? settings tokens m i = none := by
  simp [faultAt?, ht, hid]

/-- A program name among the declarations is never at fault. -/
theorem faultAt?_of_program (ht : tokens[i]? = some t) (lt : i < m)
    (program : t.kind = .generalId) : faultAt? settings tokens m i = none := by
  simp [faultAt?, ht, lt, program, Kind.valueType?]

/-- A typed identifier among the declarations is at fault when its declaration is. -/
theorem faultAt?_of_variable (ht : tokens[i]? = some t) (lt : i < m) {type : ValueType}
    (hv : t.kind.valueType? = some type) :
    faultAt? settings tokens m i = declarationFault? settings tokens m i t type := by
  simp [faultAt?, ht, lt, Token.isIdentifier_of_valueType? hv, hv]

theorem faultAt?_of_reference (ht : tokens[i]? = some t) (le : m ≤ i)
    (hid : t.isIdentifier = true) :
    faultAt? settings tokens m i = referenceFault? settings tokens m i t := by
  have late : ¬ i < m := by omega
  simp [faultAt?, ht, hid, late]

end FaultAt

section RequestAt

variable {settings : Settings} {tokens : List Token} {i : Nat} {t : Token}

theorem requestAt?_of_not_identifier (ht : tokens[i]? = some t) (hid : t.isIdentifier = false) :
    requestAt? settings tokens i = none := by
  simp [requestAt?, ht, hid]

theorem requestAt?_of_program (ht : tokens[i]? = some t) (hid : t.isIdentifier = true)
    (hv : t.kind.valueType? = none) :
    requestAt? settings tokens i = some (.program t.lexeme) := by
  simp [requestAt?, ht, hid, hv]

theorem requestAt?_of_variable (ht : tokens[i]? = some t) {type : ValueType}
    (hv : t.kind.valueType? = some type) :
    requestAt? settings tokens i =
      some (.var t.lexeme type (scopeAfter settings (tokens.take i))) := by
  simp [requestAt?, ht, Token.isIdentifier_of_valueType? hv, hv]

/-- An identifier asks for its name and its type. -/
theorem requestAt?_eq (settings : Settings) (ht : tokens[i]? = some t)
    (hid : t.isIdentifier = true) :
    ∃ r, requestAt? settings tokens i = some r ∧ r.lexeme = t.lexeme ∧
      r.type? = t.kind.valueType? := by
  cases hv : t.kind.valueType? with
  | none => exact ⟨.program t.lexeme, requestAt?_of_program ht hid hv, rfl, rfl⟩
  | some type => exact ⟨_, requestAt?_of_variable ht hv, rfl, rfl⟩

end RequestAt

section TableAt

variable (settings : Settings) (tokens : List Token)

theorem requests_succ (k : Nat) :
    requests settings tokens (k + 1) =
      requests settings tokens k ++ (requestAt? settings tokens k).toList :=
  filterMap_range_succ _ k

/-- The first request for a name is made where the name is introduced, and asks for its type. -/
theorem find?_requests (k : Nat) (x : String) :
    ((requests settings tokens k).find? (·.lexeme = x)).map Request.type? =
      (introducer? (tokens.take k) x).map (·.kind.valueType?) := by
  induction k with
  | zero => rfl
  | succ k ih =>
    rw [requests_succ, List.find?_append]
    cases ht : tokens[k]? with
    | none =>
      have : requestAt? settings tokens k = none := by simp [requestAt?, ht]
      rw [this, take_succ_of_none ht]
      simpa using ih
    | some t =>
      rw [take_concat ht, introducer?_concat]
      have last : ((requestAt? settings tokens k).toList.find? (·.lexeme = x)).map Request.type? =
          (if t.names x then some t else none).map (·.kind.valueType?) := by
        cases hid : t.isIdentifier with
        | false =>
          rw [requestAt?_of_not_identifier ht hid]
          simp [Token.names, hid]
        | true =>
          obtain ⟨r, hr, hl, hty⟩ := requestAt?_eq settings ht hid
          rw [hr]
          by_cases e : t.lexeme = x <;> simp [Token.names, hid, hl, hty, e]
      cases hf : (requests settings tokens k).find? (·.lexeme = x) with
      | some r =>
        cases hi : introducer? (tokens.take k) x with
        | some first => simpa [hf, hi] using ih
        | none => simp [hf, hi] at ih
      | none =>
        cases hi : introducer? (tokens.take k) x with
        | some first => simp [hf, hi] at ih
        | none => simpa using last

theorem isKnown_tableAt (k : Nat) (x : String) :
    (tableAt settings tokens k).isKnown x = (introducer? (tokens.take k) x).isSome := by
  have := congrArg Option.isSome (find?_requests settings tokens k x)
  rw [Option.isSome_map, Option.isSome_map] at this
  unfold tableAt
  rw [SymbolTable.isKnown_after, this]

theorem typeOf?_tableAt (k : Nat) (x : String) :
    (tableAt settings tokens k).typeOf? x =
      (introducer? (tokens.take k) x).bind (·.kind.valueType?) := by
  have := congrArg (Option.bind · id) (find?_requests settings tokens k x)
  unfold tableAt
  rw [SymbolTable.typeOf?_after]
  simpa only [Option.bind_map, Function.id_comp] using this

/-- As many names are known as the tokens have distinct ones. -/
theorem knownCount_tableAt (k : Nat) :
    (tableAt settings tokens k).knownCount = distinctNames (tokens.take k) := by
  have keeps := SymbolTable.keeps_after (requests settings tokens k)
  have names : ((SymbolTable.accepted (requests settings tokens k)).map Request.lexeme).toFinset =
      (identifierNames (tokens.take k)).toFinset := by
    ext x
    rw [List.mem_toFinset, List.mem_toFinset, ← introducer?_isSome_iff,
      ← isKnown_tableAt settings tokens k x, tableAt, SymbolTable.isKnown_iff_accepted keeps,
      List.mem_map]
  rw [tableAt, SymbolTable.knownCount_eq keeps, distinctNames, ← names,
    List.toFinset_card_of_nodup keeps.nodup, List.length_map]

theorem requests_isPrefix {k m : Nat} (le : k ≤ m) :
    requests settings tokens k <+: requests settings tokens m := by
  induction m, le using Nat.le_induction with
  | base => exact List.prefix_rfl
  | succ m _ ih =>
    rw [requests_succ]
    exact ih.trans (List.prefix_append _ _)

/-- A name keeps its address to the end of the declarations. -/
theorem addressOf?_tableAt_of_le {k m : Nat} (le : k ≤ m) {x : String}
    (known : (tableAt settings tokens k).isKnown x = true) :
    (tableAt settings tokens m).addressOf? x = (tableAt settings tokens k).addressOf? x := by
  obtain ⟨more, e⟩ := requests_isPrefix settings tokens le
  unfold tableAt
  rw [← e]
  exact SymbolTable.addressOf?_after_append known more

theorem tableAt_succ_of_none {k : Nat} (h : requestAt? settings tokens k = none) :
    tableAt settings tokens (k + 1) = tableAt settings tokens k := by
  unfold tableAt
  rw [requests_succ, h, Option.toList_none, List.append_nil]

theorem tableAt_succ {k : Nat} {r : Request} (h : requestAt? settings tokens k = some r) :
    tableAt settings tokens (k + 1) = ((tableAt settings tokens k).serve r).2 := by
  unfold tableAt
  rw [requests_succ, h, Option.toList_some, SymbolTable.after_concat]

/-- While no typed identifier repeats a name, each has its own symbol. -/
theorem symbols_tableAt {k : Nat}
    (new : ∀ i < k, ∀ t, tokens[i]? = some t → t.kind.valueType?.isSome = true →
      introducer? (tokens.take i) t.lexeme = none) :
    (tableAt settings tokens k).symbols = (List.range k).filterMap (symbolAt? settings tokens) := by
  induction k with
  | zero => rfl
  | succ k ih =>
    have ih := ih fun i lt => new i (by omega)
    rw [filterMap_range_succ, ← ih]
    cases ht : tokens[k]? with
    | none =>
      rw [tableAt_succ_of_none _ _ (by simp [requestAt?, ht])]
      simp [symbolAt?, ht]
    | some t =>
      cases hv : t.kind.valueType? with
      | none =>
        have : symbolAt? settings tokens k = none := by simp [symbolAt?, ht, hv]
        rw [this, Option.toList_none, List.append_nil]
        cases hid : t.isIdentifier with
        | false => rw [tableAt_succ_of_none _ _ (requestAt?_of_not_identifier ht hid)]
        | true =>
          rw [tableAt_succ _ _ (requestAt?_of_program ht hid hv)]
          exact SymbolTable.symbols_serve_program _ _
      | some type =>
        have unknown : (tableAt settings tokens k).isKnown t.lexeme = false := by
          rw [isKnown_tableAt, new k (Nat.lt_succ_self k) t ht (by rw [hv]; rfl)]
          rfl
        rw [tableAt_succ _ _ (requestAt?_of_variable ht hv), SymbolTable.serve_of_new unknown,
          knownCount_tableAt]
        simp [symbolAt?, ht, hv, Request.symbol?, ValueType.identifierKind_of_valueType? hv]

end TableAt

end Pseudocode
