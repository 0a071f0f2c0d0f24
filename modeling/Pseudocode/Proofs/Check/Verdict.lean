/-
  Pseudocode.Proofs.Check.Verdict — an analysis judges each position on its own.

  The analysis carries a state through the declarations and then through the body. The state that
  it has in front of a position is a function of the stream alone (`declaredState`, `bodyState`),
  and with it in hand each step comes out as `faultAt?` says: it finds the fault of its position,
  or it goes on with the state of the next one. A walk whose steps do so finds the fault of the
  first position that has one (`outcome_walk`).

  Proved:
  (1) The step of a declaration (`outcome_declareToken`) and the step of the body
      (`outcome_useToken`), each from the state of its position to that of the next.
  (2) The outcome of an analysis, fault or result, as a function of the stream
      (`outcome_analyze`).
  (3) An analysis finds a fault exactly when it is the first one among the positions, and succeeds
      exactly when there is none (`analyze_judges_positions`).
  (4) The fault of a position is about the identifier that stands there
      (`exists_place_of_faultAt?`).
  (5) An analysis that accepts a stream and one that refuses it part at a position
      (`exists_parting`).
  (6) Where an identifier of the body has no fault, the assignment and the condition that it starts
      pass their checks (`fault?_checkAssignment_of_quiet`, `fault?_checkCondition_of_quiet`).
-/

import Pseudocode.Proofs.Check.Positions

namespace Pseudocode

/-! ## Faults or values -/

/-- The fault that was found, or else a value. -/
def verdict {α : Type} (fault? : Option Fault) (a : α) : Except Fault α :=
  match fault? with
  | some fault => .error fault
  | none => .ok a

section Verdict

variable {α β : Type}

@[simp] theorem verdict_some (fault : Fault) (a : α) : verdict (some fault) a = .error fault := rfl

@[simp] theorem verdict_none (a : α) : verdict none a = .ok a := rfl

@[simp] theorem ok_bind {ε : Type} (a : α) (f : α → Except ε β) : (Except.ok a >>= f) = f a := rfl

@[simp] theorem error_bind {ε : Type} (e : ε) (f : α → Except ε β) :
    (Except.error e >>= f) = .error e := rfl

/-- Of two judgements in sequence the first that finds a fault decides. -/
theorem verdict_bind_verdict (first : Option Fault) (second : α → Option Fault) (a : α)
    (f : α → β) :
    (verdict first a >>= fun x => verdict (second x) (f x)) =
      verdict (first.or (second a)) (f a) := by
  cases first <;> rfl

theorem outcome_eq_verdict (x : Traced Unit) : x.outcome = verdict x.fault? () := by
  cases h : x.outcome with
  | error fault => simp [Traced.fault?, h]
  | ok u => simp [Traced.fault?, h]

theorem verdict_eq_error_iff {fault? : Option Fault} {a : α} {fault : Fault} :
    verdict fault? a = .error fault ↔ fault? = some fault := by
  cases fault? <;> simp

theorem verdict_eq_ok_iff {fault? : Option Fault} {a b : α} :
    verdict fault? a = .ok b ↔ fault? = none ∧ a = b := by
  cases fault? <;> simp

end Verdict

/-- A walk whose steps follow the faults of the positions ends at the first of them. -/
theorem outcome_walk {step : Nat → Token → State → Traced (Token × State)}
    {fault? : Nat → Option Fault} {out : Token → Token} {state : Nat → State}
    (tokens : List Token) (first : Nat)
    (h : ∀ k t, tokens[k]? = some t → (step (first + k) t (state (first + k))).outcome =
      verdict (fault? (first + k)) (out t, state (first + k + 1))) :
    (walk step first tokens (state first)).outcome =
      verdict ((List.range' first tokens.length).findSome? fault?)
        (tokens.map out, state (first + tokens.length)) := by
  induction tokens generalizing first with
  | nil => rfl
  | cons t rest ih =>
    have head : (step first t (state first)).outcome =
        verdict (fault? first) (out t, state (first + 1)) := h 0 t rfl
    have tail := ih (first + 1) fun k u hu => by
      have := h (k + 1) u hu
      rwa [show first + (k + 1) = first + 1 + k by omega] at this
    rw [outcome_walk_cons, head, List.length_cons, List.range'_succ, List.findSome?_cons]
    cases hf : fault? first with
    | some fault => rfl
    | none =>
      show ((walk step (first + 1) rest (state (first + 1))).outcome >>= fun more =>
        verdict none (out t :: more.1, more.2)) = _
      rw [tail, verdict_bind_verdict, show first + (rest.length + 1) = first + 1 + rest.length by
        omega]
      simp

theorem findSome?_range_eq_some_iff {α : Type} {f : Nat → Option α} {n : Nat} {a : α} :
    (List.range n).findSome? f = some a ↔ ∃ i < n, f i = some a ∧ ∀ j < i, f j = none := by
  induction n with
  | zero => simp
  | succ n ih =>
    rw [List.range_succ, List.findSome?_append, Option.or_eq_some_iff, ih]
    constructor
    · intro h
      rcases h with ⟨i, lt, hi, before⟩ | ⟨none, last⟩
      · exact ⟨i, by omega, hi, before⟩
      · rw [List.findSome?_eq_none_iff] at none
        exact ⟨n, by omega, by simpa using last, fun j lt => none j (List.mem_range.2 lt)⟩
    · intro ⟨i, lt, hi, before⟩
      rcases Nat.lt_succ_iff_lt_or_eq.1 lt with lt | e
      · exact Or.inl ⟨i, lt, hi, before⟩
      · subst e
        refine Or.inr ⟨?_, by simpa using hi⟩
        rw [List.findSome?_eq_none_iff]
        exact fun j hj => before j (List.mem_range.1 hj)

/-! ## The states of an analysis -/

/-- Resolves an identifier to the address of its name. -/
def annotate (symbols : SymbolTable) (t : Token) : Token :=
  if t.isIdentifier then ((symbols.addressOf? t.lexeme).map t.resolve).getD t else t

/-- The state in front of position `k` of the declarations. -/
def declaredState (settings : Settings) (tokens : List Token) (k : Nat) : State :=
  { symbols := tableAt settings tokens k
    programs := ⟨(List.range k).filterMap (programAt? tokens)⟩
    scopes := ⟨((tokens.take k).reverse.filter (·.kind = .generalId)).map Token.lexeme⟩
    tally :=
      { tokens := tokens.length
        declarations := (tokens.take k).countP (·.kind.valueType?.isSome) } }

/-- What the analysis has counted in front of position `k` of the body. -/
def bodyTally (tokens : List Token) (m k : Nat) : Tally :=
  { tokens := tokens.length
    declarations := (tokens.take m).countP (·.kind.valueType?.isSome)
    references := (List.range k).countP (isReferenceAt tokens m)
    assignments := (List.range k).countP (startsAssignmentAt tokens m)
    conditions := (List.range k).countP (startsConditionAt tokens m) }

/-- The state in front of position `k` of the body. -/
def bodyState (settings : Settings) (tokens : List Token) (m k : Nat) : State :=
  { declaredState settings tokens m with tally := bodyTally tokens m k }

/-- The result of an analysis that finds no fault. -/
def analysisOf (settings : Settings) (tokens : List Token) (m : Nat) : Analysis :=
  { tokens := tokens.map (annotate (tableAt settings tokens m))
    symbols := tableAt settings tokens m
    programs := (declaredState settings tokens m).programs
    tally := bodyTally tokens m tokens.length }

theorem annotate_of_not_identifier {symbols : SymbolTable} {t : Token}
    (h : t.isIdentifier = false) : annotate symbols t = t := by
  simp [annotate, h]

theorem annotate_of_addressOf? {symbols : SymbolTable} {t : Token} {address : Nat}
    (h : t.isIdentifier = true) (ha : symbols.addressOf? t.lexeme = some address) :
    annotate symbols t = t.resolve address := by
  simp [annotate, h, ha]

/-! ## The step of a declaration -/

theorem beforeSemicolon_eq (tokens : List Token) :
    beforeSemicolon tokens = (tokens.findIdx? Token.isSemicolon).map (tokens.take ·) := by
  induction tokens with
  | nil => rfl
  | cons t rest ih =>
    unfold beforeSemicolon
    rw [List.findIdx?_cons]
    split
    · rfl
    · rw [ih, Option.map_map, Option.map_map]
      rfl

/-- The word that ends the declaration at `k` stands in front of the next semicolon. -/
theorem announcedType?_take {tokens : List Token} {m k : Nat} {t : Token}
    (ht : tokens[k]? = some t) (lt : k < m) (hs : t.isSemicolon = false) :
    announcedType? (tokens.take m) k = (announcement? tokens k m).map Token.lexeme := by
  have here : (tokens.take m)[k]? = some t := by rw [List.getElem?_take, if_pos lt, ht]
  obtain ⟨inside, ht'⟩ := List.getElem?_eq_some_iff.1 here
  have open_ : (tokens.take m).drop k = t :: (tokens.take m).drop (k + 1) := by
    rw [List.drop_eq_getElem_cons inside, ht']
  unfold announcedType?
  rw [beforeSemicolon_eq, open_, List.findIdx?_cons, hs, announcement?,
    nextSemicolon?]
  cases hn : ((tokens.take m).drop (k + 1)).findIdx? Token.isSemicolon with
  | none => rfl
  | some n =>
    have short : n < ((tokens.take m).drop (k + 1)).length := by
      obtain ⟨h, -⟩ := List.findIdx?_eq_some_iff_getElem.1 hn
      exact h
    rw [List.length_drop, List.length_take] at short
    have word : ((tokens.take m).drop k)[n]? = tokens[k + n]? := by
      rw [List.getElem?_drop, List.getElem?_take, if_pos (by omega)]
    simp only [Bool.false_eq_true, if_false, Option.map_some, Option.bind_some, ← open_]
    rw [List.getLast?_take, if_neg (Nat.succ_ne_zero n), Nat.add_sub_cancel, word,
      show k + 1 + n - 1 = k + n by omega]
    obtain ⟨w, hw⟩ : ∃ w, tokens[k + n]? = some w :=
      ⟨_, List.getElem?_eq_getElem (by omega)⟩
    simp [hw]

theorem isSemicolon_of_isIdentifier {t : Token} (h : t.isIdentifier = true) :
    t.isSemicolon = false := by
  cases hs : t.isSemicolon with
  | false => rfl
  | true =>
    have : t.kind = .semicolon := by simpa [Token.isSemicolon] using hs
    simp [Token.isIdentifier, this, Kind.isIdentifier, Kind.family] at h

/-- A program name opens its scope, and is recorded when it was not known. -/
theorem outcome_declareProgram {t : Token} {state : State} {address : Nat}
    (ha : (state.symbols.serve (.program t.lexeme)).2.addressOf? t.lexeme = some address) :
    (declareProgram t state).outcome =
      .ok (t.resolve address,
        { symbols := (state.symbols.serve (.program t.lexeme)).2
          programs := if state.symbols.isKnown t.lexeme then state.programs
            else state.programs.record t.lexeme t.line
          scopes := state.scopes.push t.lexeme
          tally := state.tally }) := by
  cases hd : state.symbols.declareProgram t.lexeme with
  | none =>
    have known := SymbolTable.declareProgram_eq_none_iff.1 hd
    simp only [SymbolTable.serve, hd] at ha
    simp [declareProgram, SymbolTable.serve, hd, ha, known]
  | some symbols =>
    have new : state.symbols.isKnown t.lexeme = false := by
      rw [← Bool.not_eq_true, ← SymbolTable.declareProgram_eq_none_iff, hd]
      simp
    simp only [SymbolTable.serve, hd] at ha
    simp [declareProgram, SymbolTable.serve, hd, ha, new]

/-- A variable is judged by its name first, then by its semicolon, then by its word. -/
theorem outcome_declareVariable (settings : Settings) (declarations : List Token) (k : Nat)
    (t : Token) (type : ValueType) (state : State) :
    (declareVariable settings declarations k t type state).outcome =
      if state.symbols.isKnown t.lexeme then .error (.duplicateDeclaration t.place)
      else
        match announcedType? declarations k with
        | none => .error (.unterminated t.place "';' ending the declaration")
        | some announced =>
          if announced = settings.dialect.typeName type then
            .ok (t.resolve state.symbols.knownCount,
              { state with
                symbols := (state.symbols.serve
                  (.var t.lexeme type (state.scopes.current?.getD settings.defaultScope))).2
                tally := { state.tally with declarations := state.tally.declarations + 1 } })
          else .error (.typeMismatch t.place (settings.dialect.typeName type) announced) := by
  cases hk : state.symbols.isKnown t.lexeme with
  | true => simp [declareVariable, SymbolTable.declare, hk]
  | false =>
    cases ha : announcedType? declarations k with
    | none => simp [declareVariable, SymbolTable.declare, hk, ha]
    | some announced =>
      simp only [declareVariable, SymbolTable.serve, SymbolTable.declare, hk, ha,
        Bool.false_eq_true, if_false]
      split <;> simp

section Step

variable (settings : Settings) {tokens : List Token} {m k : Nat} {t : Token}

theorem current?_declaredState (k : Nat) :
    (declaredState settings tokens k).scopes.current?.getD settings.defaultScope =
      scopeAfter settings (tokens.take k) := by
  rw [scopeAfter, declaredState, ScopeStack.current?, List.head?_map, List.head?_filter]

/-- An identifier among the declarations is resolved to the address that it has at their end. -/
theorem annotate_declared (ht : tokens[k]? = some t) (lt : k < m) (hid : t.isIdentifier = true) :
    ∃ address, (tableAt settings tokens (k + 1)).addressOf? t.lexeme = some address ∧
      annotate (tableAt settings tokens m) t = t.resolve address := by
  have known : (tableAt settings tokens (k + 1)).isKnown t.lexeme = true := by
    rw [isKnown_tableAt]
    exact isSome_introducer?_take_iff.2 ⟨k, Nat.lt_succ_self k, t, ht, hid, rfl⟩
  obtain ⟨address, ha⟩ := Option.isSome_iff_exists.1 (SymbolTable.isSome_addressOf? _ _ ▸ known)
  refine ⟨address, ha, annotate_of_addressOf? hid ?_⟩
  rw [addressOf?_tableAt_of_le settings tokens lt known, ha]

theorem declaredState_succ_of_not_identifier (ht : tokens[k]? = some t)
    (hid : t.isIdentifier = false) :
    declaredState settings tokens (k + 1) = declaredState settings tokens k := by
  have untyped : t.kind.valueType?.isSome = false ∧ t.kind ≠ .generalId := by
    have := mt Kind.isIdentifier_iff.2 (by simpa [Token.isIdentifier] using hid)
    rw [not_or, Bool.not_eq_true] at this
    exact this
  rw [declaredState, tableAt_succ_of_none _ _ (requestAt?_of_not_identifier ht hid),
    filterMap_range_succ, take_concat ht]
  simp [declaredState, programAt?, ht, untyped]

theorem declaredState_succ_of_program (ht : tokens[k]? = some t) (hk : t.kind = .generalId) :
    declaredState settings tokens (k + 1) =
      { symbols := ((tableAt settings tokens k).serve (.program t.lexeme)).2
        programs := if (tableAt settings tokens k).isKnown t.lexeme
          then (declaredState settings tokens k).programs
          else (declaredState settings tokens k).programs.record t.lexeme t.line
        scopes := (declaredState settings tokens k).scopes.push t.lexeme
        tally := (declaredState settings tokens k).tally } := by
  have hid : t.isIdentifier = true := Kind.isIdentifier_iff.2 (.inr hk)
  have hv : t.kind.valueType? = none := by rw [hk]; rfl
  rw [isKnown_tableAt, declaredState, tableAt_succ _ _ (requestAt?_of_program ht hid hv),
    filterMap_range_succ, take_concat ht]
  cases hi : introducer? (tokens.take k) t.lexeme <;>
    simp [declaredState, programAt?, ht, hi, hk, Kind.valueType?, ScopeStack.push,
      AddressTable.record]

theorem declaredState_succ_of_variable (ht : tokens[k]? = some t) {type : ValueType}
    (hv : t.kind.valueType? = some type) :
    declaredState settings tokens (k + 1) =
      { declaredState settings tokens k with
        symbols := ((tableAt settings tokens k).serve
          (.var t.lexeme type (scopeAfter settings (tokens.take k)))).2
        tally :=
          { (declaredState settings tokens k).tally with
            declarations := (declaredState settings tokens k).tally.declarations + 1 } } := by
  have typed : t.kind ≠ .generalId := by
    intro e
    rw [e] at hv
    cases hv
  rw [declaredState, tableAt_succ _ _ (requestAt?_of_variable ht hv), filterMap_range_succ,
    take_concat ht]
  simp [declaredState, programAt?, ht, typed, hv]

/-- A new variable is resolved to the number of names that are known in front of it. -/
theorem annotate_variable (ht : tokens[k]? = some t) (lt : k < m) {type : ValueType}
    (hv : t.kind.valueType? = some type) (new : introducer? (tokens.take k) t.lexeme = none) :
    annotate (tableAt settings tokens m) t =
      t.resolve (tableAt settings tokens k).knownCount := by
  obtain ⟨address, ha, e⟩ :=
    annotate_declared settings ht lt (Token.isIdentifier_of_valueType? hv)
  have unknown : (tableAt settings tokens k).isKnown t.lexeme = false := by
    rw [isKnown_tableAt, new]
    rfl
  have given := SymbolTable.addressOf?_serve (SymbolTable.keeps_after (requests settings tokens k))
    (r := .var t.lexeme type (scopeAfter settings (tokens.take k))) unknown
  rw [tableAt_succ _ _ (requestAt?_of_variable ht hv)] at ha
  rw [e, Option.some.inj (ha.symm.trans given)]
  rfl

theorem outcome_declareToken_of_program (ht : tokens[k]? = some t) (lt : k < m)
    (hk : t.kind = .generalId) :
    (declareToken settings (tokens.take m) k t (declaredState settings tokens k)).outcome =
      .ok (annotate (tableAt settings tokens m) t, declaredState settings tokens (k + 1)) := by
  have hid : t.isIdentifier = true := Kind.isIdentifier_iff.2 (.inr hk)
  have hv : t.kind.valueType? = none := by rw [hk]; rfl
  obtain ⟨address, ha, e⟩ := annotate_declared settings ht lt hid
  rw [tableAt_succ _ _ (requestAt?_of_program ht hid hv)] at ha
  simp only [declareToken, hid, hv, if_true]
  rw [outcome_declareProgram ha, e, declaredState_succ_of_program settings ht hk]
  rfl

theorem outcome_declareToken_of_variable (ht : tokens[k]? = some t) (lt : k < m)
    {type : ValueType} (hv : t.kind.valueType? = some type) :
    (declareToken settings (tokens.take m) k t (declaredState settings tokens k)).outcome =
      verdict (declarationFault? settings tokens m k t type)
        (annotate (tableAt settings tokens m) t, declaredState settings tokens (k + 1)) := by
  have hid : t.isIdentifier = true := Token.isIdentifier_of_valueType? hv
  have known : (declaredState settings tokens k).symbols.isKnown t.lexeme =
      (introducer? (tokens.take k) t.lexeme).isSome := isKnown_tableAt settings tokens k t.lexeme
  simp only [declareToken, hid, hv, if_true]
  rw [outcome_declareVariable, current?_declaredState, known,
    announcedType?_take ht lt (isSemicolon_of_isIdentifier hid)]
  unfold declarationFault?
  cases hi : introducer? (tokens.take k) t.lexeme with
  | some first => rfl
  | none =>
    cases announcement? tokens k m with
    | none => rfl
    | some word =>
      by_cases same : word.lexeme = settings.dialect.typeName type
      · rw [annotate_variable settings ht lt hv hi, declaredState_succ_of_variable settings ht hv]
        simp [same, declaredState]
      · simp [same]

/-- The step of a declaration leads to the fault of its position or to the next state. -/
theorem outcome_declareToken (ht : tokens[k]? = some t) (lt : k < m) :
    (declareToken settings (tokens.take m) k t (declaredState settings tokens k)).outcome =
      verdict (faultAt? settings tokens m k)
        (annotate (tableAt settings tokens m) t, declaredState settings tokens (k + 1)) := by
  cases hid : t.isIdentifier with
  | false =>
    rw [declaredState_succ_of_not_identifier settings ht hid, annotate_of_not_identifier hid,
      faultAt?_of_not_identifier ht hid]
    simp [declareToken, hid]
  | true =>
    cases hv : t.kind.valueType? with
    | none =>
      have program := Token.kind_of_untyped hid hv
      rw [faultAt?_of_program ht lt program]
      exact outcome_declareToken_of_program settings ht lt program
    | some type =>
      rw [faultAt?_of_variable ht lt hv]
      exact outcome_declareToken_of_variable settings ht lt hv

end Step

/-! ## The step of the body -/

theorem constructAt?_eq (tokens : List Token) (k : Nat) :
    constructAt? tokens k = keywordBefore? tokens k := by
  match k with
  | 0 => rfl
  | 1 => rfl
  | k + 2 => simp [constructAt?, keywordBefore?]

theorem isSome_keywordBefore? (tokens : List Token) (k : Nat) :
    (keywordBefore? tokens k).isSome =
      (decide (2 ≤ k) && tokens[k - 2]?.any fun t => t.kind ∈ [.ifKw, .whileKw, .untilKw]) := by
  have keyword (kind : Kind) : (Construct.ofKeyword? kind).isSome =
      decide (kind ∈ [Kind.ifKw, Kind.whileKw, Kind.untilKw]) := by
    cases kind <;> rfl
  by_cases le : 2 ≤ k
  · cases ht : tokens[k - 2]? <;> simp [keywordBefore?, le, ht, keyword]
  · simp [keywordBefore?, le]

theorem outcome_checkIfAssigned (settings : Settings) (tokens : List Token) (k : Nat) (t : Token)
    (symbols : SymbolTable) (tally : Tally) :
    (checkIfAssigned settings tokens k t symbols tally).outcome =
      verdict (assignmentFault? settings.scan tokens k t (symbols.typeOf? t.lexeme))
        (if tokens[k + 1]?.any (·.kind = .assign) then tally.countAssignment else tally) := by
  unfold checkIfAssigned
  rw [isAssigned, assignmentFault?]
  split
  · rw [Traced.outcome_bind, outcome_eq_verdict]
    cases (checkAssignment settings.scan tokens k t (symbols.typeOf? t.lexeme)).fault? <;> rfl
  · rfl

theorem outcome_checkIfCondition (tokens : List Token) (k : Nat) (t : Token) (tally : Tally) :
    (checkIfCondition tokens k t tally).outcome =
      verdict (conditionFault? tokens k t)
        (if (keywordBefore? tokens k).isSome then tally.countCondition else tally) := by
  unfold checkIfCondition
  rw [constructAt?_eq, conditionFault?]
  cases keywordBefore? tokens k with
  | none => rfl
  | some construct =>
    simp only [Traced.outcome_bind, outcome_eq_verdict, Option.bind_some]
    cases (checkCondition construct tokens k t).fault? <;> rfl

theorem countP_range_succ (p : Nat → Bool) (k : Nat) :
    (List.range (k + 1)).countP p = (List.range k).countP p + if p k then 1 else 0 := by
  rw [List.range_succ, List.countP_append, List.countP_singleton]

/-- An identifier of the body counts as a reference, and for the checks that it starts. -/
theorem bodyTally_succ {tokens : List Token} {m k : Nat} {t : Token} (ht : tokens[k]? = some t)
    (le : m ≤ k) (hid : t.isIdentifier = true) :
    bodyTally tokens m (k + 1) =
      let tally := (bodyTally tokens m k).countReference
      let tally := if tokens[k + 1]?.any (·.kind = .assign) then tally.countAssignment else tally
      if (keywordBefore? tokens k).isSome then tally.countCondition else tally := by
  have reference : isReferenceAt tokens m k = true := by simp [isReferenceAt, le, ht, hid]
  have condition : startsConditionAt tokens m k = (keywordBefore? tokens k).isSome := by
    rw [isSome_keywordBefore?, startsConditionAt, reference, Bool.true_and]
  have assignment : startsAssignmentAt tokens m k = tokens[k + 1]?.any (·.kind = .assign) := by
    rw [startsAssignmentAt, reference, Bool.true_and]
  simp only [bodyTally, countP_range_succ, reference, condition, assignment]
  cases tokens[k + 1]?.any (·.kind = .assign) <;> cases (keywordBefore? tokens k).isSome <;> rfl

theorem bodyTally_succ_of_not_identifier {tokens : List Token} {m k : Nat} {t : Token}
    (ht : tokens[k]? = some t) (hid : t.isIdentifier = false) :
    bodyTally tokens m (k + 1) = bodyTally tokens m k := by
  have reference : isReferenceAt tokens m k = false := by simp [isReferenceAt, ht, hid]
  simp [bodyTally, countP_range_succ, startsAssignmentAt, startsConditionAt, reference]

/-- The step of the body leads to the fault of its position or to the next state. -/
theorem outcome_useToken (settings : Settings) {tokens : List Token} {m k : Nat} {t : Token}
    (ht : tokens[k]? = some t) (le : m ≤ k) :
    (useToken settings tokens k t (bodyState settings tokens m k)).outcome =
      verdict (faultAt? settings tokens m k)
        (annotate (tableAt settings tokens m) t, bodyState settings tokens m (k + 1)) := by
  cases hid : t.isIdentifier with
  | false =>
    have same : bodyState settings tokens m (k + 1) = bodyState settings tokens m k := by
      rw [bodyState, bodyTally_succ_of_not_identifier ht hid, bodyState]
    rw [same, faultAt?_of_not_identifier ht hid, annotate_of_not_identifier hid, useToken, hid]
    rfl
  | true =>
    have symbols : (bodyState settings tokens m k).symbols = tableAt settings tokens m := rfl
    have known := isKnown_tableAt settings tokens m t.lexeme
    rw [← SymbolTable.isSome_addressOf?] at known
    simp only [useToken, hid, if_true, resolveReference, symbols]
    rw [faultAt?_of_reference ht le hid, referenceFault?]
    cases hi : introducer? (tokens.take m) t.lexeme with
    | none =>
      rw [hi, Option.isSome_none, Option.isSome_eq_false_iff, Option.isNone_iff_eq_none] at known
      simp [known]
    | some first =>
      rw [hi] at known
      obtain ⟨address, ha⟩ := Option.isSome_iff_exists.1 known
      have type : (tableAt settings tokens m).typeOf? t.lexeme = first.kind.valueType? := by
        rw [typeOf?_tableAt, hi]
        rfl
      simp only [ha, Traced.outcome_bind, Traced.outcome_note, Traced.outcome_pure, ok_bind,
        outcome_checkIfAssigned, outcome_checkIfCondition, type, annotate_of_addressOf? hid ha]
      cases assignmentFault? settings.scan tokens k t first.kind.valueType? with
      | some fault => rfl
      | none =>
        cases conditionFault? tokens k t with
        | some fault => rfl
        | none =>
          have next : bodyState settings tokens m (k + 1) =
            { bodyState settings tokens m k with tally := bodyTally tokens m (k + 1) } := rfl
          rw [next, bodyTally_succ ht le hid]
          rfl

/-! ## The whole analysis -/

theorem split_eq (tokens : List Token) :
    Sections.split tokens =
      match tokens.findIdx? Token.isBegin with
      | none => .error .missingBody
      | some m => .ok ⟨tokens.take m, tokens.drop m⟩ := by
  induction tokens with
  | nil => rfl
  | cons t rest ih =>
    unfold Sections.split
    rw [List.findIdx?_cons]
    split
    · rfl
    · rw [ih]
      cases rest.findIdx? Token.isBegin <;> rfl

/-- The body starts with what the declarations end with, and with nothing counted. -/
theorem bodyState_self (settings : Settings) (tokens : List Token) (m : Nat) :
    bodyState settings tokens m m = declaredState settings tokens m := by
  have none : ∀ i ∈ List.range m, isReferenceAt tokens m i = false := by
    intro i hi
    have : ¬ m ≤ i := by simpa using hi
    simp [isReferenceAt, this]
  have references : (List.range m).countP (isReferenceAt tokens m) = 0 :=
    List.countP_eq_zero.2 fun i hi => by simp [none i hi]
  have assignments : (List.range m).countP (startsAssignmentAt tokens m) = 0 :=
    List.countP_eq_zero.2 fun i hi => by simp [startsAssignmentAt, none i hi]
  have conditions : (List.range m).countP (startsConditionAt tokens m) = 0 :=
    List.countP_eq_zero.2 fun i hi => by simp [startsConditionAt, none i hi]
  rw [bodyState, bodyTally, references, assignments, conditions]
  rfl

/-- The declarations end with their first fault or with the state behind them. -/
theorem outcome_walk_declarations (settings : Settings) {tokens : List Token} {m : Nat}
    (le : m ≤ tokens.length) :
    (walk (declareToken settings (tokens.take m)) 0 (tokens.take m)
        (declaredState settings tokens 0)).outcome =
      verdict ((List.range' 0 m).findSome? (faultAt? settings tokens m))
        ((tokens.take m).map (annotate (tableAt settings tokens m)),
          declaredState settings tokens m) := by
  have length_take : (tokens.take m).length = m := by rw [List.length_take]; omega
  rw [outcome_walk (tokens.take m) 0, length_take, Nat.zero_add]
  intro k t ht
  rw [List.getElem?_take] at ht
  rw [Nat.zero_add]
  split at ht
  · exact outcome_declareToken settings ht ‹k < m›
  · cases ht

/-- The body ends with its first fault or with everything counted. -/
theorem outcome_walk_body (settings : Settings) {tokens : List Token} {m : Nat}
    (le : m ≤ tokens.length) :
    (walk (useToken settings tokens) m (tokens.drop m) (declaredState settings tokens m)).outcome =
      verdict ((List.range' m (tokens.length - m)).findSome? (faultAt? settings tokens m))
        ((tokens.drop m).map (annotate (tableAt settings tokens m)),
          bodyState settings tokens m tokens.length) := by
  rw [← bodyState_self, outcome_walk (tokens.drop m) m, List.length_drop, Nat.add_sub_cancel' le]
  intro k t ht
  rw [List.getElem?_drop] at ht
  exact outcome_useToken settings ht (Nat.le_add_right m k)

/-- An analysis as a function of the stream: the first fault of a position, or the result. -/
theorem outcome_analyze (settings : Settings) (tokens : List Token) :
    (analyze settings tokens).outcome =
      match tokens.findIdx? Token.isBegin with
      | none => .error .missingBody
      | some m =>
        verdict ((List.range tokens.length).findSome? (faultAt? settings tokens m))
          (analysisOf settings tokens m) := by
  unfold analyze
  rw [Traced.outcome_bind, Traced.outcome_lift, split_eq]
  cases hm : tokens.findIdx? Token.isBegin with
  | none => rfl
  | some m =>
    have le : m ≤ tokens.length := Nat.le_of_lt (List.findIdx?_eq_some_iff_getElem.1 hm).1
    have length_take : (tokens.take m).length = m := by rw [List.length_take]; omega
    have start : ({ tally := { tokens := tokens.length } } : State) =
      declaredState settings tokens 0 := rfl
    have positions : List.range tokens.length =
        List.range' 0 m ++ List.range' m (tokens.length - m) := by
      have := List.range'_append_1 (s := 0) (m := m) (n := tokens.length - m)
      rw [Nat.zero_add, Nat.add_sub_cancel' le] at this
      rw [List.range_eq_range', this]
    simp only [ok_bind, Traced.outcome_bind, Traced.outcome_note, Traced.outcome_pure, start,
      length_take, outcome_walk_declarations settings le, positions, List.findSome?_append]
    cases (List.range' 0 m).findSome? (faultAt? settings tokens m) with
    | some fault => rfl
    | none =>
      simp only [verdict_none, ok_bind, outcome_walk_body settings le, Option.none_or]
      cases (List.range' m (tokens.length - m)).findSome? (faultAt? settings tokens m) with
      | some fault => rfl
      | none =>
        simp only [verdict_none, ok_bind, ← List.map_append, List.take_append_drop]
        rfl

theorem faultAt?_of_length_le {settings : Settings} {tokens : List Token} {m i : Nat}
    (h : tokens.length ≤ i) : faultAt? settings tokens m i = none := by
  unfold faultAt?
  rw [List.getElem?_eq_none h]
  rfl

theorem findSome?_faultAt?_eq_none_iff {settings : Settings} {tokens : List Token} {m : Nat} :
    (List.range tokens.length).findSome? (faultAt? settings tokens m) = none ↔
      ∀ i, faultAt? settings tokens m i = none := by
  rw [List.findSome?_eq_none_iff]
  constructor
  · intro none i
    rcases Nat.lt_or_ge i tokens.length with lt | ge
    · exact none i (List.mem_range.2 lt)
    · exact faultAt?_of_length_le ge
  · exact fun none i _ => none i

/-- When an analysis succeeds, and with what. -/
theorem outcome_analyze_eq_ok_iff {settings : Settings} {tokens : List Token} {a : Analysis} :
    (analyze settings tokens).outcome = .ok a ↔
      ∃ m, tokens.findIdx? Token.isBegin = some m ∧
        (∀ i, faultAt? settings tokens m i = none) ∧ a = analysisOf settings tokens m := by
  rw [outcome_analyze]
  cases tokens.findIdx? Token.isBegin with
  | none => simp
  | some m =>
    show verdict _ _ = _ ↔ _
    rw [verdict_eq_ok_iff, findSome?_faultAt?_eq_none_iff]
    simp [eq_comm]

/-- The same where the body is known to begin at `m`. -/
theorem outcome_analyze_eq_ok_iff_of_begin {settings : Settings} {tokens : List Token} {m : Nat}
    {a : Analysis} (hm : tokens.findIdx? Token.isBegin = some m) :
    (analyze settings tokens).outcome = .ok a ↔
      (∀ i, faultAt? settings tokens m i = none) ∧ a = analysisOf settings tokens m := by
  rw [outcome_analyze_eq_ok_iff]
  simp [hm]

/-- The first fault is that of a position in front of which there is none. -/
theorem findSome?_faultAt?_eq_some_iff {settings : Settings} {tokens : List Token} {m : Nat}
    {fault : Fault} :
    (List.range tokens.length).findSome? (faultAt? settings tokens m) = some fault ↔
      ∃ i, faultAt? settings tokens m i = some fault ∧
        ∀ j < i, faultAt? settings tokens m j = none := by
  rw [findSome?_range_eq_some_iff]
  constructor
  · intro ⟨i, _, here, before⟩
    exact ⟨i, here, before⟩
  · intro ⟨i, here, before⟩
    refine ⟨i, ?_, here, before⟩
    by_contra far
    rw [faultAt?_of_length_le (by omega)] at here
    cases here

/-- When an analysis fails, and with what. -/
theorem outcome_analyze_eq_error_iff {settings : Settings} {tokens : List Token} {fault : Fault} :
    (analyze settings tokens).outcome = .error fault ↔
      (tokens.findIdx? Token.isBegin = none ∧ fault = .missingBody) ∨
        ∃ m i, tokens.findIdx? Token.isBegin = some m ∧
          faultAt? settings tokens m i = some fault ∧
          ∀ j < i, faultAt? settings tokens m j = none := by
  rw [outcome_analyze]
  cases tokens.findIdx? Token.isBegin with
  | none => simp [eq_comm]
  | some m =>
    show verdict _ _ = _ ↔ _
    rw [verdict_eq_error_iff, findSome?_faultAt?_eq_some_iff]
    simp

/-- Where one analysis accepts a stream and another refuses it, they part at a position. -/
theorem exists_parting {settings others : Settings} {tokens : List Token} {a : Analysis}
    {fault : Fault} (accepted : (analyze settings tokens).outcome = .ok a)
    (refused : (analyze others tokens).outcome = .error fault) :
    ∃ m i, tokens.findIdx? Token.isBegin = some m ∧
      (∀ j, faultAt? settings tokens m j = none) ∧ faultAt? others tokens m i = some fault ∧
      ∀ j < i, faultAt? others tokens m j = none := by
  obtain ⟨m, hm, quiet, -⟩ := outcome_analyze_eq_ok_iff.1 accepted
  rcases outcome_analyze_eq_error_iff.1 refused with ⟨none, -⟩ | ⟨m', i, hm', here, before⟩
  · cases hm.symm.trans none
  · obtain rfl : m = m' := Option.some.inj (hm.symm.trans hm')
    exact ⟨m, i, hm, quiet, here, before⟩

/-- An analysis of a stream with a body finds the fault of the first position that has one, and
succeeds exactly when no position has one. -/
theorem analyze_judges_positions (settings : Settings) (tokens : List Token) :
    match tokens.findIdx? Token.isBegin with
    | none => (analyze settings tokens).outcome = .error .missingBody
    | some m =>
      (∀ fault, (analyze settings tokens).outcome = .error fault ↔
        ∃ i, faultAt? settings tokens m i = some fault ∧
          ∀ j < i, faultAt? settings tokens m j = none) ∧
      ((∃ a, (analyze settings tokens).outcome = .ok a) ↔
        ∀ i, faultAt? settings tokens m i = none) := by
  have outcome := outcome_analyze settings tokens
  cases hm : tokens.findIdx? Token.isBegin with
  | none => rwa [hm] at outcome
  | some m =>
    rw [hm] at outcome
    constructor
    · intro fault
      rw [outcome, verdict_eq_error_iff, findSome?_range_eq_some_iff]
      constructor
      · intro ⟨i, _, hi, before⟩
        exact ⟨i, hi, before⟩
      · intro ⟨i, hi, before⟩
        refine ⟨i, ?_, hi, before⟩
        by_contra far
        rw [faultAt?_of_length_le (Nat.le_of_not_lt far)] at hi
        cases hi
    · rw [outcome, ← findSome?_faultAt?_eq_none_iff]
      simp [verdict_eq_ok_iff]

/-! ## The token at fault -/

/-- The fault of position `i` is the one that an analysis finds. -/
def RaisedAt (settings : Settings) (tokens : List Token) (i : Nat) (fault : Fault) : Prop :=
  ∃ m, tokens.findIdx? Token.isBegin = some m ∧ faultAt? settings tokens m i = some fault ∧
    ∀ j < i, faultAt? settings tokens m j = none

/-- A fault shows the lexeme, the line and the record of a token. -/
structure Fault.Blames (f : Fault) (t : Token) : Prop where
  lexeme : f.lexeme? = some t.lexeme
  line : f.line? = some t.line
  span : f.span? = some t.span

theorem Fault.blames_of_place? {f : Fault} {t : Token} (h : f.place? = some t.place) :
    f.Blames t := by
  have lexeme : f.lexeme? = some t.lexeme := by
    rw [Fault.lexeme?, h]
    rfl
  have line : f.line? = some t.line := by
    rw [Fault.line?, h]
    rfl
  refine ⟨lexeme, line, ?_⟩
  cases f with
  | malformedRecord record message span => cases h
  | missingBody => cases h
  | io message => cases h
  | _ => exact congrArg (Option.map Place.span) h

theorem Traced.fault?_eq_some_iff {α : Type} {x : Traced α} {f : Fault} :
    x.fault? = some f ↔ x.outcome = .error f := by
  unfold Traced.fault?
  cases x.outcome <;> simp

theorem Traced.fault?_eq_none_iff {α : Type} {x : Traced α} :
    x.fault? = none ↔ ∃ a, x.outcome = .ok a := by
  unfold Traced.fault?
  cases x.outcome <;> simp

section PlaceOfFault

variable {settings : Settings} {tokens : List Token} {m i : Nat} {t : Token} {f : Fault}

theorem place?_of_judgeAssignment {type : ValueType} {expression : List Token}
    (h : judgeAssignment t type expression = .error f) : f.place? = some t.place := by
  unfold judgeAssignment at h
  split at h
  · cases h
  · cases h
    rfl

theorem place?_of_checkAssignment {scan : AssignmentScan} {target : Option ValueType}
    (h : (checkAssignment scan tokens i t target).fault? = some f) :
    f.place? = some t.place := by
  rw [Traced.fault?_eq_some_iff] at h
  unfold checkAssignment at h
  cases scan with
  | statement =>
    simp only at h
    split at h
    · cases h
      rfl
    · split at h
      · cases h
        rfl
      · exact place?_of_judgeAssignment h
  | leading =>
    simp only at h
    split at h
    · cases h
      rfl
    · split at h
      · cases h
      · exact place?_of_judgeAssignment h

theorem place?_of_checkCondition {construct : Construct}
    (h : (checkCondition construct tokens i t).fault? = some f) : f.place? = some t.place := by
  rw [Traced.fault?_eq_some_iff] at h
  unfold checkCondition at h
  split at h
  · cases h
    rfl
  · rw [Traced.outcome_bind, Traced.outcome_note, ok_bind] at h
    split at h
    · cases h
    · cases h
      rfl

theorem place?_of_declarationFault? {type : ValueType}
    (h : declarationFault? settings tokens m i t type = some f) : f.place? = some t.place := by
  unfold declarationFault? at h
  split at h
  · cases h
    rfl
  · split at h
    · cases h
      rfl
    · split at h
      · cases h
      · cases h
        rfl

theorem place?_of_referenceFault? (h : referenceFault? settings tokens m i t = some f) :
    f.place? = some t.place := by
  unfold referenceFault? at h
  split at h
  · cases h
    rfl
  · rcases Option.or_eq_some_iff.1 h with assigned | ⟨-, tested⟩
    · unfold assignmentFault? at assigned
      split at assigned
      · exact place?_of_checkAssignment assigned
      · cases assigned
    · unfold conditionFault? at tested
      obtain ⟨construct, -, tested⟩ := Option.bind_eq_some_iff.1 tested
      exact place?_of_checkCondition tested

/-- The fault of a position is about the identifier that stands there. -/
theorem exists_place_of_faultAt? (h : faultAt? settings tokens m i = some f) :
    ∃ t, tokens[i]? = some t ∧ t.isIdentifier = true ∧ f.place? = some t.place := by
  unfold faultAt? at h
  obtain ⟨t, ht, h⟩ := Option.bind_eq_some_iff.1 h
  split at h
  · rename_i hid
    refine ⟨t, ht, hid, ?_⟩
    split at h
    · obtain ⟨type, -, h⟩ := Option.bind_eq_some_iff.1 h
      exact place?_of_declarationFault? h
    · exact place?_of_referenceFault? h
  · cases h

end PlaceOfFault

/-! ## Identifiers without a fault -/

section Quiet

variable {settings : Settings} {tokens : List Token} {m i : Nat} {t : Token}

/-- A declaration is in order when its name is new and the word that declares it names its type. -/
theorem declarationFault?_eq_none_iff {type : ValueType} :
    declarationFault? settings tokens m i t type = none ↔
      introducer? (tokens.take i) t.lexeme = none ∧
        ∃ word, announcement? tokens i m = some word ∧
          word.lexeme = settings.dialect.typeName type := by
  unfold declarationFault?
  cases introducer? (tokens.take i) t.lexeme with
  | some first => simp
  | none =>
    cases announcement? tokens i m with
    | none => simp
    | some word => simp

/-- An identifier of the body has no fault when its name was introduced among the declarations and
what it starts passes its check. -/
theorem referenceFault?_eq_none_iff :
    referenceFault? settings tokens m i t = none ↔
      ∃ first, introducer? (tokens.take m) t.lexeme = some first ∧
        assignmentFault? settings.scan tokens i t first.kind.valueType? = none ∧
        conditionFault? tokens i t = none := by
  unfold referenceFault?
  cases introducer? (tokens.take m) t.lexeme with
  | none => simp
  | some first => simp

variable (quiet : faultAt? settings tokens m i = none) (le : m ≤ i) (ht : tokens[i]? = some t)
  (hid : t.isIdentifier = true)

include quiet le ht hid

theorem referenceFault?_of_quiet : referenceFault? settings tokens m i t = none := by
  rw [← faultAt?_of_reference ht le hid, quiet]

/-- An assignment without a fault passes its check, against the type that the symbol table has for
its target. -/
theorem fault?_checkAssignment_of_quiet
    (follows : tokens[i + 1]?.any (·.kind = .assign) = true) :
    (checkAssignment settings.scan tokens i t
      ((tableAt settings tokens m).typeOf? t.lexeme)).fault? = none := by
  obtain ⟨first, introduced, assigned, -⟩ :=
    referenceFault?_eq_none_iff.1 (referenceFault?_of_quiet quiet le ht hid)
  rw [assignmentFault?, if_pos follows] at assigned
  rw [typeOf?_tableAt, introduced]
  exact assigned

/-- A condition without a fault passes its check. -/
theorem fault?_checkCondition_of_quiet {construct : Construct}
    (keyword : keywordBefore? tokens i = some construct) :
    (checkCondition construct tokens i t).fault? = none := by
  obtain ⟨first, -, -, tested⟩ :=
    referenceFault?_eq_none_iff.1 (referenceFault?_of_quiet quiet le ht hid)
  rw [conditionFault?, keyword] at tested
  exact tested

end Quiet

end Pseudocode
