/-
  Pseudocode.Proofs.Check.Bounds — every position that an analysis reads is there.

  An analysis can be carried out on one vector of tokens, by positions: it reads the token at a
  position, searches a stretch for a semicolon and steps back from it, and puts the resolved token
  where it read the plain one. Nothing in that way of working keeps a position inside the vector,
  or inside the section that is being worked on. `analyzeAt` works so, and says when it goes wrong:
  it halts when it reads or writes a position that is not in its stretch, when it steps back
  further than a position allows, and when the symbol table refuses a name that it did not know a
  moment ago.

  `analyze` takes the tokens one after the other and has no positions to get wrong. So the two say
  the same only if none of those halts is ever reached. What makes it so: a section is a stretch of
  the vector (`split_eq`); a resolved token keeps its kind and lexeme (`Annotated`), so every
  search comes out as it would on the stream that was given; and the token that a declaration
  starts with is an identifier, so the semicolon stands behind it (`semicolonIn_of_identifier`).

  Proved:
  (1) A search in a stretch of the vector reads only what is there (`semicolonIn_eq`), and the word
      in front of the semicolon is in the stretch (`announcedAt_eq`).
  (2) A step by position does what the step of the analysis does (`declareAt_eq`, `useAt_eq`), and
      a loop over the positions of a section what a walk over its tokens does (`along_eq_walk`).
  (3) An analysis by position is the analysis: it never halts but for a fault of the program
      (`analysis_stays_in_bounds`).
-/

import Pseudocode.Proofs.Check.Renaming

namespace Pseudocode

/-! ## Reading and writing by position -/

/-- Why an analysis by position comes to a halt. -/
inductive Halt where
  /-- The position is not there, or not in the stretch that is worked on. -/
  | outOfRange (position : Nat)
  /-- The position has fewer than the wanted number of positions in front of it. -/
  | underflow (position : Nat)
  /-- The table refuses to declare a name that it does not know. -/
  | refusedNew (lexeme : String)
  /-- The program is at fault. -/
  | fault (fault : Fault)
  deriving DecidableEq, Repr

/-- The positions from `first` on and below `stop`. -/
structure Stretch where
  first : Nat
  stop : Nat
  deriving DecidableEq, Repr

def Stretch.Has (within : Stretch) (i : Nat) : Prop := within.first ≤ i ∧ i < within.stop

instance (within : Stretch) (i : Nat) : Decidable (within.Has i) :=
  inferInstanceAs (Decidable (_ ∧ _))

/-- All positions of a vector. -/
def wholeOf (tokens : List Token) : Stretch := ⟨0, tokens.length⟩

/-- The token at a position of a stretch. -/
def readAt (tokens : List Token) (within : Stretch) (i : Nat) : Except Halt Token :=
  if within.Has i then
    match tokens[i]? with
    | some t => .ok t
    | none => .error (.outOfRange i)
  else .error (.outOfRange i)

/-- Puts a token at a position of a stretch. -/
def writeAt (tokens : List Token) (within : Stretch) (i : Nat) (t : Token) :
    Except Halt (List Token) :=
  if within.Has i ∧ i < tokens.length then .ok (tokens.set i t) else .error (.outOfRange i)

/-- The position `n` in front of a position. -/
def stepBack (i n : Nat) : Except Halt Nat :=
  if n ≤ i then .ok (i - n) else .error (.underflow i)

/-- Position of the first semicolon among `count` positions from `i` on. -/
def searchSemicolon (tokens : List Token) (within : Stretch) :
    Nat → Nat → Except Halt (Option Nat)
  | 0, _ => .ok none
  | count + 1, i => do
    let t ← readAt tokens within i
    if t.isSemicolon then pure (some i) else searchSemicolon tokens within count (i + 1)

/-- Position of the first semicolon of a stretch. -/
def semicolonIn (tokens : List Token) (within : Stretch) : Except Halt (Option Nat) :=
  searchSemicolon tokens within (within.stop - within.first) within.first

/-! ## The analysis by position -/

/-- A computation that halts only for a fault. -/
def Traced.orHalt {α : Type} (x : Traced α) : Except Halt α := x.outcome.mapError .fault

/-- The vector and the state, between two steps. -/
structure Progress where
  tokens : List Token
  state : State
  deriving DecidableEq, Repr

/-- The word in front of the first semicolon from `index` on and below `stop`. -/
def announcedAt (tokens : List Token) (index stop : Nat) : Except Halt (Option String) := do
  match ← semicolonIn tokens ⟨index, stop⟩ with
  | none => pure none
  | some semicolon => do
    let word ← readAt tokens ⟨index, stop⟩ (← stepBack semicolon 1)
    pure (some word.lexeme)

/-- Declares the variable at `index` of a section. A name that is known is refused before its
declaration is read, so the table need not refuse it again. -/
def declareVariableAt (settings : Settings) (within : Stretch) (index : Nat) (type : ValueType)
    (p : Progress) : Except Halt (Nat × State) := do
  let token ← readAt p.tokens within index
  if p.state.symbols.isKnown token.lexeme then
    .error (.fault (.duplicateDeclaration token.place))
  else
    match ← announcedAt p.tokens index within.stop with
    | none => .error (.fault (.unterminated token.place "';' ending the declaration"))
    | some announced =>
      if announced = settings.dialect.typeName type then
        let scope := p.state.scopes.current?.getD settings.defaultScope
        match p.state.symbols.declare token.lexeme type scope with
        | none => .error (.refusedNew token.lexeme)
        | some (address, symbols) =>
          let tally := { p.state.tally with declarations := p.state.tally.declarations + 1 }
          pure (address, { p.state with symbols, tally })
      else
        .error (.fault (.typeMismatch token.place (settings.dialect.typeName type) announced))

/-- The step at a position of the declarations. -/
def declareAt (settings : Settings) (within : Stretch) (index : Nat) (p : Progress) :
    Except Halt Progress := do
  let token ← readAt p.tokens within index
  if token.isIdentifier then
    match token.kind.valueType? with
    | none => do
      let (declared, state) ← (declareProgram token p.state).orHalt
      let tokens ← writeAt p.tokens within index declared
      pure ⟨tokens, state⟩
    | some type => do
      let (address, state) ← declareVariableAt settings within index type p
      let tokens ← writeAt p.tokens within index (token.resolve address)
      pure ⟨tokens, state⟩
  else pure p

/-- Checks the assignment that the identifier at `index` starts, if it starts one. -/
def checkAssignmentAt (settings : Settings) (tokens : List Token) (index : Nat)
    (symbols : SymbolTable) (tally : Tally) : Except Halt Tally :=
  if isAssigned tokens index then do
    let token ← readAt tokens (wholeOf tokens) index
    (checkAssignment settings.scan tokens index token (symbols.typeOf? token.lexeme)).orHalt
    pure tally.countAssignment
  else pure tally

/-- Checks the condition that the identifier at `start` starts, if it starts one. The step back to
the keyword is not taken where there are no two positions in front. -/
def checkConditionAt (tokens : List Token) (start : Nat) (tally : Tally) : Except Halt Tally :=
  match keywordBefore? tokens start with
  | none => pure tally
  | some construct => do
    let token ← readAt tokens (wholeOf tokens) start
    (checkCondition construct tokens start token).orHalt
    pure tally.countCondition

/-- The step at a position of the body; the checks read the vector with the token resolved. -/
def useAt (settings : Settings) (within : Stretch) (index : Nat) (p : Progress) :
    Except Halt Progress := do
  let token ← readAt p.tokens within index
  if token.isIdentifier then do
    let address ← (resolveReference p.state.symbols token).orHalt
    let tokens ← writeAt p.tokens within index (token.resolve address)
    let tally := p.state.tally.countReference
    let tally ← checkAssignmentAt settings tokens index p.state.symbols tally
    let tally ← checkConditionAt tokens index tally
    pure ⟨tokens, { p.state with tally }⟩
  else pure p

/-- Takes a step at each position of a stretch, in order. -/
def Stretch.along (within : Stretch) (step : Nat → Progress → Except Halt Progress)
    (p : Progress) : Except Halt Progress :=
  (List.range' within.first (within.stop - within.first)).foldlM (fun p index => step index p) p

/-- Analyses a token stream by positions, on one vector. -/
def analyzeAt (settings : Settings) (tokens : List Token) : Except Halt Analysis :=
  match tokens.findIdx? Token.isBegin with
  | none => .error (.fault .missingBody)
  | some marker => do
    let declarations : Stretch := ⟨0, marker⟩
    let body : Stretch := ⟨marker, tokens.length⟩
    let start : State := { tally := { tokens := tokens.length } }
    let p ← declarations.along (declareAt settings declarations) ⟨tokens, start⟩
    let p ← body.along (useAt settings body) p
    pure
      { tokens := p.tokens
        symbols := p.state.symbols
        programs := p.state.programs
        tally := p.state.tally }

/-! ## Access -/

section Access

variable {tokens : List Token} {within : Stretch} {i : Nat} {t : Token}

theorem readAt_of_getElem? (has : within.Has i) (ht : tokens[i]? = some t) :
    readAt tokens within i = .ok t := by
  rw [readAt, if_pos has, ht]

theorem writeAt_of_lt (has : within.Has i) (lt : i < tokens.length) (t : Token) :
    writeAt tokens within i t = .ok (tokens.set i t) := by
  rw [writeAt, if_pos ⟨has, lt⟩]

theorem has_wholeOf (ht : tokens[i]? = some t) : (wholeOf tokens).Has i :=
  ⟨Nat.zero_le i, (List.getElem?_eq_some_iff.1 ht).1⟩

end Access

section OrHalt

variable {α β : Type}

@[simp] theorem orHalt_pure (a : α) : (pure a : Traced α).orHalt = .ok a := rfl

@[simp] theorem orHalt_refuse (f : Fault) :
    (Traced.refuse f : Traced α).orHalt = .error (.fault f) := rfl

@[simp] theorem orHalt_note (e : Event) : (Traced.note e).orHalt = .ok () := rfl

@[simp] theorem orHalt_bind (x : Traced α) (f : α → Traced β) :
    (x >>= f).orHalt = x.orHalt >>= fun a => (f a).orHalt := by
  unfold Traced.orHalt
  rw [Traced.outcome_bind]
  cases x.outcome <;> rfl

theorem orHalt_congr {x y : Traced α} (h : x.outcome = y.outcome) : x.orHalt = y.orHalt :=
  congrArg (Except.mapError Halt.fault) h

/-- What halts only for a fault halts for no other reason. -/
theorem isFault_of_orHalt {x : Traced α} {halt : Halt} (h : x.orHalt = .error halt) :
    ∃ f, halt = .fault f ∧ x.outcome = .error f := by
  unfold Traced.orHalt at h
  cases hx : x.outcome with
  | ok a =>
    rw [hx] at h
    cases h
  | error f =>
    rw [hx] at h
    cases h
    exact ⟨f, rfl, rfl⟩

end OrHalt

/-! ## Resolved tokens -/

/-- `u` is `t`, resolved or not. -/
def Token.AnnotatedAs (t u : Token) : Prop := ∃ resolved, u = { t with resolved }

/-- A vector holds a stream of which some tokens have been resolved. -/
def Annotated (tokens vector : List Token) : Prop :=
  List.Forall₂ Token.AnnotatedAs tokens vector

theorem Token.AnnotatedAs.refl (t : Token) : t.AnnotatedAs t := ⟨t.resolved, rfl⟩

theorem Token.annotatedAs_resolve (t : Token) (a : Nat) : t.AnnotatedAs (t.resolve a) :=
  ⟨some a, rfl⟩

theorem Token.AnnotatedAs.place {t u : Token} (h : t.AnnotatedAs u) : u.place = t.place := by
  obtain ⟨resolved, rfl⟩ := h
  rfl

theorem Annotated.refl (tokens : List Token) : Annotated tokens tokens :=
  List.forall₂_same.2 fun t _ => .refl t

section Annotated

variable {tokens vector : List Token} (h : Annotated tokens vector)

include h

/-- A resolved token has its own name, so a vector is its stream with no name changed. -/
theorem Annotated.renamed : Renamed id tokens vector := by
  refine h.imp ?_
  rintro t u ⟨resolved, rfl⟩
  exact ⟨rfl, rfl⟩

theorem Annotated.set {i : Nat} {t u : Token} (ht : tokens[i]? = some t) (same : t.AnnotatedAs u) :
    Annotated tokens (vector.set i u) := by
  induction h generalizing i with
  | nil => exact .nil
  | cons head tail ih =>
    cases i with
    | zero =>
      cases ht
      exact .cons same tail
    | succ i => exact .cons head (ih ht)

end Annotated

/-- A fault that is about a place stays what it is when nothing is renamed there. -/
theorem renamed_id_of_place? {f : Fault} {p : Place} (h : f.place? = some p) :
    f.renamed id p = f := by
  cases f <;> simp_all [Fault.place?, Fault.renamed]

section Checks

variable {tokens vector : List Token} (h : Annotated tokens vector) {t u : Token}
  (same : t.AnnotatedAs u)

include h same

/-- A check of an assignment says of the vector what it says of the stream. -/
theorem outcome_checkAssignment_of_annotated (scan : AssignmentScan) (i : Nat)
    (target : Option ValueType) :
    (checkAssignment scan vector i u target).outcome =
      (checkAssignment scan tokens i t target).outcome := by
  rw [outcome_eq_verdict, outcome_eq_verdict,
    fault?_checkAssignment_of_renamed h.renamed scan i t u target, same.place]
  cases hf : (checkAssignment scan tokens i t target).fault? with
  | none => rfl
  | some f => rw [Option.map_some, renamed_id_of_place? (place?_of_checkAssignment hf)]

/-- A check of a condition says of the vector what it says of the stream. -/
theorem outcome_checkCondition_of_annotated (construct : Construct) (i : Nat) :
    (checkCondition construct vector i u).outcome =
      (checkCondition construct tokens i t).outcome := by
  rw [outcome_eq_verdict, outcome_eq_verdict,
    fault?_checkCondition_of_renamed h.renamed construct i t u, same.place]
  cases hf : (checkCondition construct tokens i t).fault? with
  | none => rfl
  | some f => rw [Option.map_some, renamed_id_of_place? (place?_of_checkCondition hf)]

end Checks

/-! ## The word that ends a declaration -/

/-- A search reads the positions that it was given, one after the other; it finds what a search in
the list of their tokens finds. -/
theorem searchSemicolon_eq {tokens : List Token} {within : Stretch}
    (le : within.stop ≤ tokens.length) (count i : Nat) (first : within.first ≤ i)
    (stop : i + count ≤ within.stop) :
    searchSemicolon tokens within count i =
      .ok ((((tokens.drop i).take count).findIdx? Token.isSemicolon).map (i + ·)) := by
  induction count generalizing i with
  | zero => simp [searchSemicolon]
  | succ count ih =>
    have inside : i < tokens.length := by omega
    have here : tokens[i]? = some tokens[i] := List.getElem?_eq_getElem inside
    rw [searchSemicolon, readAt_of_getElem? ⟨first, by omega⟩ here, ok_bind,
      List.drop_eq_getElem_cons inside, List.take_succ_cons, List.findIdx?_cons]
    by_cases hs : tokens[i].isSemicolon = true
    · rw [if_pos hs, if_pos hs]
      rfl
    · rw [if_neg hs, if_neg hs, ih (i + 1) (by omega) (by omega), Option.map_map]
      congr 2
      funext n
      show i + 1 + n = i + (n + 1)
      omega

/-- A search in a stretch reads only what is there. -/
theorem semicolonIn_eq {tokens : List Token} {i m : Nat} (lt : i < m) (le : m ≤ tokens.length) :
    semicolonIn tokens ⟨i, m⟩ =
      .ok ((((tokens.take m).drop i).findIdx? Token.isSemicolon).map (i + ·)) := by
  have stop : i + (m - i) ≤ m := by omega
  rw [semicolonIn, searchSemicolon_eq le (m - i) i (Nat.le_refl i) stop, List.drop_take]

/-- A step back from the semicolon leads to a token of the stretch. -/
theorem readAt_before_semicolon {tokens : List Token} {i m s : Nat}
    (found : nextSemicolon? tokens i m = some s) :
    stepBack s 1 = .ok (s - 1) ∧
      ∃ word, tokens[s - 1]? = some word ∧ readAt tokens ⟨i, m⟩ (s - 1) = .ok word := by
  obtain ⟨behind, inside, short⟩ := lt_of_nextSemicolon? found
  have has : (⟨i, m⟩ : Stretch).Has (s - 1) :=
    ⟨Nat.le_sub_one_of_lt behind, by show s - 1 < m; omega⟩
  have here : tokens[s - 1]? = some tokens[s - 1] := List.getElem?_eq_getElem (by omega)
  exact ⟨if_pos (by omega), _, here, readAt_of_getElem? has here⟩

section Announced

variable {tokens : List Token} {i m : Nat} {t : Token} (lt : i < m) (le : m ≤ tokens.length)
  (ht : tokens[i]? = some t) (hid : t.isIdentifier = true)

include lt le ht hid

/-- A search that begins at an identifier finds the first semicolon behind it. -/
theorem semicolonIn_of_identifier :
    semicolonIn tokens ⟨i, m⟩ = .ok (nextSemicolon? tokens i m) := by
  obtain ⟨inside, rfl⟩ := List.getElem?_eq_some_iff.1 ht
  have begins : (tokens.take m).drop i = tokens[i] :: (tokens.take m).drop (i + 1) := by
    rw [List.drop_eq_getElem_cons (by rw [List.length_take]; omega), List.getElem_take]
  rw [semicolonIn_eq lt le, begins, List.findIdx?_cons, isSemicolon_of_isIdentifier hid,
    nextSemicolon?]
  cases ((tokens.take m).drop (i + 1)).findIdx? Token.isSemicolon with
  | none => rfl
  | some n =>
    show Except.ok (some (i + (n + 1))) = .ok (some (i + 1 + n))
    rw [Nat.add_assoc, Nat.add_comm 1 n]

/-- The word in front of the semicolon is found by position, and is the announced type. -/
theorem announcedAt_eq :
    announcedAt tokens i m = .ok (announcedType? (tokens.take m) i) := by
  rw [announcedType?_take ht lt (isSemicolon_of_isIdentifier hid), announcement?, announcedAt,
    semicolonIn_of_identifier lt le ht hid, ok_bind]
  cases found : nextSemicolon? tokens i m with
  | none => rfl
  | some s =>
    obtain ⟨back, word, hw, read⟩ := readAt_before_semicolon found
    simp only [Option.bind_some, hw, back, read, ok_bind]
    rfl

end Announced

/-- The words of a declaration are the same in the vector and in the stream. -/
theorem announcedType?_of_annotated {tokens vector : List Token} (h : Annotated tokens vector)
    {m i : Nat} {t : Token} (ht : tokens[i]? = some t) (hv : vector[i]? = some t) (lt : i < m)
    (hid : t.isIdentifier = true) :
    announcedType? (vector.take m) i = announcedType? (tokens.take m) i := by
  have hs := isSemicolon_of_isIdentifier hid
  rw [announcedType?_take hv lt hs, announcedType?_take ht lt hs]
  rcases cases_of_rel (announcement?_of_renamed h.renamed i m) with
    ⟨none, none'⟩ | ⟨word, word', some, some', same⟩
  · rw [none, none']
  · rw [some, some', Option.map_some, Option.map_some, same.lexeme]
    rfl

/-! ## One step -/

theorem set_of_getElem? {vector : List Token} {i : Nat} {t : Token} (hv : vector[i]? = some t) :
    vector.set i t = vector := by
  obtain ⟨lt, rfl⟩ := List.getElem?_eq_some_iff.1 hv
  exact List.set_getElem_self lt

section Step

variable (settings : Settings) {tokens : List Token} {m i : Nat} {t : Token} {p : Progress}
  (h : Annotated tokens p.tokens) (ht : tokens[i]? = some t) (hp : p.tokens[i]? = some t)

include h ht hp

/-- A name that is asked about first is not refused by the table. -/
theorem declareVariableAt_eq (lt : i < m) (le : m ≤ p.tokens.length)
    (hid : t.isIdentifier = true) (type : ValueType) :
    (declareVariable settings (tokens.take m) i t type p.state).orHalt =
      declareVariableAt settings ⟨0, m⟩ i type p >>= fun r => .ok (t.resolve r.1, r.2) := by
  rw [declareVariableAt, readAt_of_getElem? ⟨Nat.zero_le i, lt⟩ hp, ok_bind,
    announcedAt_eq lt le hp hid, announcedType?_of_annotated h ht hp lt hid, declareVariable]
  cases hk : p.state.symbols.isKnown t.lexeme with
  | true => simp [SymbolTable.declare, hk]
  | false =>
    cases announcedType? (tokens.take m) i with
    | none => simp [SymbolTable.declare, hk]
    | some announced =>
      simp only [SymbolTable.declare, hk, Bool.false_eq_true, if_false, ok_bind]
      split <;> simp

/-- The step at a position of the declarations is the step of the token there. -/
theorem declareAt_eq (lt : i < m) (le : m ≤ p.tokens.length) :
    declareAt settings ⟨0, m⟩ i p =
      (declareToken settings (tokens.take m) i t p.state).orHalt >>= fun r =>
        .ok ⟨p.tokens.set i r.1, r.2⟩ := by
  have has : (⟨0, m⟩ : Stretch).Has i := ⟨Nat.zero_le i, lt⟩
  have inside : i < p.tokens.length := by omega
  rw [declareAt, readAt_of_getElem? has hp, ok_bind, declareToken]
  cases hid : t.isIdentifier with
  | false => simp [set_of_getElem? hp]; rfl
  | true =>
    cases hv : t.kind.valueType? with
    | none =>
      simp only [if_true]
      cases (declareProgram t p.state).orHalt with
      | error halt => rfl
      | ok r => simp [writeAt_of_lt has inside]
    | some type =>
      simp only [if_true, declareVariableAt_eq settings h ht hp lt le hid]
      cases declareVariableAt settings ⟨0, m⟩ i type p with
      | error halt => rfl
      | ok r => simp [writeAt_of_lt has inside]

/-- The check of an assignment reads the vector in which its target is resolved. -/
theorem checkAssignmentAt_eq (address : Nat) (symbols : SymbolTable) (tally : Tally) :
    checkAssignmentAt settings (p.tokens.set i (t.resolve address)) i symbols tally =
      (checkIfAssigned settings tokens i t symbols tally).orHalt := by
  have here : (p.tokens.set i (t.resolve address))[i]? = some (t.resolve address) := by
    rw [List.getElem?_set_self (List.getElem?_eq_some_iff.1 hp).1]
  have after : Annotated tokens (p.tokens.set i (t.resolve address)) :=
    h.set ht (t.annotatedAs_resolve address)
  have assigned : isAssigned (p.tokens.set i (t.resolve address)) i = isAssigned tokens i :=
    any_getElem?_of_renamed after.renamed (· = .assign) (i + 1)
  rw [checkAssignmentAt, checkIfAssigned, assigned]
  split
  · rw [readAt_of_getElem? (has_wholeOf here) here, ok_bind, orHalt_bind, Token.lexeme_resolve,
      orHalt_congr (outcome_checkAssignment_of_annotated after (t.annotatedAs_resolve address)
        settings.scan i (symbols.typeOf? t.lexeme))]
    rfl
  · rfl

/-- The check of a condition reads the vector in which its first token is resolved. -/
theorem checkConditionAt_eq (address : Nat) (tally : Tally) :
    checkConditionAt (p.tokens.set i (t.resolve address)) i tally =
      (checkIfCondition tokens i t tally).orHalt := by
  have here : (p.tokens.set i (t.resolve address))[i]? = some (t.resolve address) := by
    rw [List.getElem?_set_self (List.getElem?_eq_some_iff.1 hp).1]
  have after : Annotated tokens (p.tokens.set i (t.resolve address)) :=
    h.set ht (t.annotatedAs_resolve address)
  rw [checkConditionAt, checkIfCondition, constructAt?_eq, keywordBefore?_of_renamed after.renamed]
  cases keywordBefore? tokens i with
  | none => rfl
  | some construct =>
    simp only [readAt_of_getElem? (has_wholeOf here) here, ok_bind, orHalt_bind,
      orHalt_congr (outcome_checkCondition_of_annotated after (t.annotatedAs_resolve address)
        construct i)]
    rfl

/-- The step at a position of the body is the step of the token there. -/
theorem useAt_eq (le : m ≤ i) :
    useAt settings ⟨m, p.tokens.length⟩ i p =
      (useToken settings tokens i t p.state).orHalt >>= fun r =>
        .ok ⟨p.tokens.set i r.1, r.2⟩ := by
  have inside : i < p.tokens.length := (List.getElem?_eq_some_iff.1 hp).1
  have has : (⟨m, p.tokens.length⟩ : Stretch).Has i := ⟨le, inside⟩
  rw [useAt, readAt_of_getElem? has hp, ok_bind, useToken]
  cases hid : t.isIdentifier with
  | false => simp [set_of_getElem? hp]; rfl
  | true =>
    simp only [if_true, orHalt_bind]
    cases (resolveReference p.state.symbols t).orHalt with
    | error halt => rfl
    | ok address =>
      simp only [ok_bind, writeAt_of_lt has inside, checkAssignmentAt_eq settings h ht hp,
        checkConditionAt_eq h ht hp]
      cases (checkIfAssigned settings tokens i t p.state.symbols
          p.state.tally.countReference).orHalt with
      | error halt => rfl
      | ok tally =>
        simp only [ok_bind]
        cases (checkIfCondition tokens i t tally).orHalt with
        | error halt => rfl
        | ok tally => rfl

end Step

/-! ## All steps -/

section Loop

variable {settings : Settings} {tokens : List Token} {i : Nat} {t : Token} {state : State}
  {r : Token × State}

theorem annotatedAs_of_declareProgram (h : (declareProgram t state).outcome = .ok r) :
    t.AnnotatedAs r.1 := by
  unfold declareProgram at h
  cases hd : state.symbols.declareProgram t.lexeme with
  | none | some symbols =>
    simp only [hd, Traced.outcome_bind, Traced.outcome_pure, Traced.outcome_note, ok_bind] at h
    split at h
    · cases h
      exact .refl t
    · cases h
      exact t.annotatedAs_resolve _

theorem annotatedAs_of_declareToken {declarations : List Token}
    (h : (declareToken settings declarations i t state).outcome = .ok r) : t.AnnotatedAs r.1 := by
  unfold declareToken at h
  split at h
  · split at h
    · exact annotatedAs_of_declareProgram h
    · rw [outcome_declareVariable] at h
      split at h
      · cases h
      · split at h
        · cases h
        · split at h
          · cases h
            exact t.annotatedAs_resolve _
          · cases h
  · cases h
    exact .refl t

theorem annotatedAs_of_useToken (h : (useToken settings tokens i t state).outcome = .ok r) :
    t.AnnotatedAs r.1 := by
  unfold useToken at h
  split at h
  · simp only [Traced.outcome_bind] at h
    obtain ⟨address, -, h⟩ := except_bind_eq_ok_iff.1 h
    obtain ⟨assigned, -, h⟩ := except_bind_eq_ok_iff.1 h
    obtain ⟨tested, -, h⟩ := except_bind_eq_ok_iff.1 h
    cases h
    exact t.annotatedAs_resolve _
  · cases h
    exact .refl t

/-- A walk gives back the tokens that it met, resolved or not. -/
theorem annotated_of_walk {step : Nat → Token → State → Traced (Token × State)}
    (annotates : ∀ i t state r, (step i t state).outcome = .ok r → t.AnnotatedAs r.1)
    {rest : List Token} {last : List Token × State}
    (h : (walk step i rest state).outcome = .ok last) : Annotated rest last.1 := by
  induction rest generalizing i state last with
  | nil =>
    cases h
    exact .nil
  | cons t rest ih =>
    rw [outcome_walk_cons] at h
    obtain ⟨first, one, h⟩ := except_bind_eq_ok_iff.1 h
    obtain ⟨more, walked, h⟩ := except_bind_eq_ok_iff.1 h
    cases h
    exact .cons (annotates i t state first one) (ih walked)

/-- A loop over the positions of a stretch does what a walk over its tokens does, when each step by
position does what the step of the walk does. -/
theorem along_eq_walk (step : Nat → Token → State → Traced (Token × State))
    (stepAt : Nat → Progress → Except Halt Progress) (within : Stretch)
    (one : ∀ i t p, within.Has i → Annotated tokens p.tokens → tokens[i]? = some t →
      p.tokens[i]? = some t →
        stepAt i p = (step i t p.state).orHalt >>= fun r => .ok ⟨p.tokens.set i r.1, r.2⟩)
    (annotates : ∀ i t state r, (step i t state).outcome = .ok r → t.AnnotatedAs r.1)
    {before rest behind done : List Token} (split : tokens = before ++ rest ++ behind)
    (h : Annotated before done) (first : within.first ≤ before.length)
    (stop : before.length + rest.length ≤ within.stop) (state : State) :
    (List.range' before.length rest.length).foldlM (fun p i => stepAt i p)
        ⟨done ++ rest ++ behind, state⟩ =
      (walk step before.length rest state).orHalt >>= fun r =>
        .ok ⟨done ++ r.1 ++ behind, r.2⟩ := by
  induction rest generalizing before done state with
  | nil => rfl
  | cons t rest ih =>
    have length := h.length_eq
    rw [List.length_cons] at stop
    -- what lies in front has been resolved; the token here and all behind it are still as given
    have annotated : Annotated tokens (done ++ t :: rest ++ behind) := by
      rw [split, List.append_assoc, List.append_assoc]
      exact List.rel_append h (Annotated.refl _)
    rw [List.length_cons, List.range'_succ, List.foldlM_cons,
      one before.length t _ ⟨first, by omega⟩ annotated (by simp [split]) (by simp [length]),
      walk, orHalt_bind]
    cases hx : (step before.length t state).outcome with
    | error fault => simp [Traced.orHalt, hx, Except.mapError]
    | ok r =>
      have moved : (done ++ t :: rest ++ behind).set before.length r.1 =
          (done ++ [r.1]) ++ rest ++ behind := by
        rw [length, List.append_assoc, List.set_append_right _ _ (Nat.le_refl _), Nat.sub_self]
        simp
      have length' : (before ++ [t]).length = before.length + 1 := by simp
      have next := ih (show tokens = (before ++ [t]) ++ rest ++ behind by simp [split])
        (List.rel_append h (.cons (annotates _ _ _ _ hx) .nil)) (by omega) (by omega) r.2
      rw [length'] at next
      have here : (step before.length t state).orHalt = .ok r := by
        rw [Traced.orHalt, hx]
        rfl
      simp only [here, ok_bind, moved, next, orHalt_bind]
      cases (walk step (before.length + 1) rest r.2).orHalt with
      | error halt => rfl
      | ok more => simp

end Loop

/-- A loop over the declarations by position is a walk over them. -/
theorem along_declareAt_eq (settings : Settings) {tokens : List Token} {m : Nat}
    (le : m ≤ tokens.length) (state : State) :
    Stretch.along ⟨0, m⟩ (declareAt settings ⟨0, m⟩) ⟨tokens, state⟩ =
      (walk (declareToken settings (tokens.take m)) 0 (tokens.take m) state).orHalt >>= fun r =>
        .ok ⟨r.1 ++ tokens.drop m, r.2⟩ := by
  have length : (tokens.take m).length = m := List.length_take_of_le le
  have loop := along_eq_walk (declareToken settings (tokens.take m)) (declareAt settings ⟨0, m⟩)
    ⟨0, m⟩ ?_ (fun i t state r => annotatedAs_of_declareToken)
    (show tokens = [] ++ tokens.take m ++ tokens.drop m by simp) .nil (Nat.le_refl 0) (by simp)
    state
  · simpa [Stretch.along, length] using loop
  · intro i t p has h ht hp
    exact declareAt_eq settings h ht hp has.2 (h.length_eq ▸ le)

/-- A loop over the body by position is a walk over it, when the declarations were resolved. -/
theorem along_useAt_eq (settings : Settings) {tokens declared : List Token} {m : Nat}
    (le : m ≤ tokens.length) (h : Annotated (tokens.take m) declared) (state : State) :
    Stretch.along ⟨m, tokens.length⟩ (useAt settings ⟨m, tokens.length⟩)
        ⟨declared ++ tokens.drop m, state⟩ =
      (walk (useToken settings tokens) m (tokens.drop m) state).orHalt >>= fun r =>
        .ok ⟨declared ++ r.1, r.2⟩ := by
  have length : (tokens.take m).length = m := List.length_take_of_le le
  have loop := along_eq_walk (useToken settings tokens) (useAt settings ⟨m, tokens.length⟩)
    ⟨m, tokens.length⟩ ?_ (fun i t state r => annotatedAs_of_useToken)
    (show tokens = tokens.take m ++ tokens.drop m ++ [] by simp) h (Nat.le_of_eq length.symm)
    (by simp [length]; omega) state
  · simpa [Stretch.along, length] using loop
  · intro i t p has h ht hp
    rw [h.length_eq]
    exact useAt_eq settings h ht hp has.1

/-- An analysis by position is the analysis. -/
theorem analyzeAt_eq (settings : Settings) (tokens : List Token) :
    analyzeAt settings tokens = (analyze settings tokens).orHalt := by
  unfold analyzeAt analyze
  rw [orHalt_bind, Traced.orHalt, Traced.outcome_lift, split_eq]
  cases hm : tokens.findIdx? Token.isBegin with
  | none => rfl
  | some m =>
    have le : m ≤ tokens.length := by
      obtain ⟨lt, -⟩ := List.findIdx?_eq_some_iff_getElem.1 hm
      omega
    have length : (tokens.take m).length = m := List.length_take_of_le le
    simp only [Except.mapError, ok_bind, orHalt_bind, orHalt_note, length,
      along_declareAt_eq settings le]
    cases hw : (walk (declareToken settings (tokens.take m)) 0 (tokens.take m)
        { tally := { tokens := tokens.length } }).outcome with
    | error fault => simp [Traced.orHalt, hw, Except.mapError]
    | ok r =>
      have annotated := annotated_of_walk (fun i t state r => annotatedAs_of_declareToken) hw
      have walked : (walk (declareToken settings (tokens.take m)) 0 (tokens.take m)
          { tally := { tokens := tokens.length } }).orHalt = .ok r := by
        rw [Traced.orHalt, hw]
        rfl
      simp only [walked, ok_bind, along_useAt_eq settings le annotated]
      cases (walk (useToken settings tokens) m (tokens.drop m) r.2).orHalt with
      | error halt => rfl
      | ok more => rfl

/-- An analysis that works by position is the analysis, so it halts for no reason but a fault of
the program: every position that it reads or writes is in the section that it works on, no step
back falls short, and no name that was found new is refused. In particular the semicolon that ends
a declaration stands behind the identifier and in the section, and so does, from the identifier
on, the word in front of it. -/
theorem analysis_stays_in_bounds (settings : Settings) (tokens : List Token) :
    analyzeAt settings tokens = (analyze settings tokens).orHalt ∧
    (∀ halt, analyzeAt settings tokens = .error halt →
      ∃ f, halt = .fault f ∧ (analyze settings tokens).outcome = .error f) ∧
    ∀ i m t, tokens[i]? = some t → t.isIdentifier = true → i < m → m ≤ tokens.length →
      ∃ found, semicolonIn tokens ⟨i, m⟩ = .ok found ∧
        ∀ s, found = some s → i < s ∧ s < m ∧ stepBack s 1 = .ok (s - 1) ∧
          ∃ word, readAt tokens ⟨i, m⟩ (s - 1) = .ok word := by
  refine ⟨analyzeAt_eq settings tokens, ?_, ?_⟩
  · intro halt h
    rw [analyzeAt_eq] at h
    exact isFault_of_orHalt h
  · intro i m t ht hid lt le
    refine ⟨_, semicolonIn_of_identifier lt le ht hid, ?_⟩
    intro s found
    obtain ⟨behind, inside, -⟩ := lt_of_nextSemicolon? found
    obtain ⟨back, word, -, read⟩ := readAt_before_semicolon found
    exact ⟨behind, inside, back, word, read⟩

/-- A declaration that is a name and a semicolon: the word in front of the semicolon is the name. -/
def bareDeclaration : List Token :=
  [.plain .intId "x" 1, .plain .semicolon ";" 1, .plain .beginKw "begin" 2]

/-- The step back from the semicolon leads to the identifier itself, and no further. -/
theorem bareDeclaration_stays_in_bounds :
    analyzeAt {} bareDeclaration =
      .error (.fault (.typeMismatch (Token.plain .intId "x" 1).place "int" "x")) ∧
    (∃ f, Halt.fault (.typeMismatch (Token.plain .intId "x" 1).place "int" "x") = .fault f ∧
      (analyze {} bareDeclaration).outcome = .error f) ∧
    (bareDeclaration[0]? = some (.plain .intId "x" 1) ∧
      (Token.plain .intId "x" 1).isIdentifier = true ∧ 2 ≤ bareDeclaration.length) ∧
    ∃ found, semicolonIn bareDeclaration ⟨0, 2⟩ = .ok found ∧
      ∀ s, found = some s → 0 < s ∧ s < 2 ∧ stepBack s 1 = .ok (s - 1) ∧
        ∃ word, readAt bareDeclaration ⟨0, 2⟩ (s - 1) = .ok word := by
  obtain ⟨-, halts, within⟩ := analysis_stays_in_bounds {} bareDeclaration
  have stopped : analyzeAt {} bareDeclaration =
      .error (.fault (.typeMismatch (Token.plain .intId "x" 1).place "int" "x")) := by decide
  exact ⟨stopped, halts _ stopped, by decide,
    within 0 2 (.plain .intId "x" 1) (by decide) (by decide) (by decide) (by decide)⟩

end Pseudocode
