/-
  Pseudocode.Proofs.Check.Pieces — declarations in pieces.

  A semicolon ends a declaration, and the search for the word that names a type goes no further. So
  declarations that are cut behind a semicolon can be judged piece by piece, but for one thing: a
  name must not be declared again in a later piece. What a piece adds to the tables depends on what
  stands in front of it, and there only on the names and on the program name read last.

  Proved:
  (1) The checks of the declarations are two conditions on them (`quiet_declarations_iff`): no typed
      identifier repeats a name, and each has the name of its type in front of its semicolon. The
      second is a condition on each piece (`announced_append`).
  (2) A table is collected piece by piece (`along_append`, `filterMap_range_eq_along`).
  (3) The names of a piece without program names have the addresses from the number of names in
      front of it on, in their order (`addresses_of_piece`).
-/

import Pseudocode.Proofs.Check.Extension
import Pseudocode.Proofs.Check.Tables

namespace Pseudocode

/-- Declarations that end with a semicolon. -/
def Ends (tokens : List Token) : Prop := ∃ front t, tokens = front ++ [t] ∧ t.isSemicolon = true

/-! ## The checks of the declarations -/

/-- Each typed identifier has the name of its type in front of the next semicolon. -/
def Announced (settings : Settings) (declarations : List Token) : Prop :=
  ∀ i t type, declarations[i]? = some t → t.kind.valueType? = some type →
    announcedType? declarations i = some (settings.dialect.typeName type)

/-- No typed identifier has a name that an identifier in front of it has. -/
def NoneRepeats (declarations : List Token) : Prop :=
  declarations.Pairwise fun t u => u.kind.valueType?.isSome = true → t.names u.lexeme = false

section Checks

variable {settings : Settings} {tokens x y : List Token} {m i : Nat} {t : Token}

theorem introducer?_eq_none_iff {name : String} :
    introducer? tokens name = none ↔ ∀ t ∈ tokens, t.names name = false := by
  simp [introducer?, List.find?_eq_none]

theorem names_of_introducer? {name : String}
    (h : introducer? tokens name = some t) : t ∈ tokens ∧ t.names name = true := by
  unfold introducer? at h
  exact ⟨List.mem_of_find?_eq_some h, by simpa using List.find?_some h⟩

theorem noneRepeats_iff :
    NoneRepeats tokens ↔ ∀ i t, tokens[i]? = some t → t.kind.valueType?.isSome = true →
      introducer? (tokens.take i) t.lexeme = none := by
  unfold NoneRepeats
  rw [List.pairwise_iff_getElem]
  constructor
  · intro h i t ht typed
    obtain ⟨inside, rfl⟩ := List.getElem?_eq_some_iff.1 ht
    refine introducer?_eq_none_iff.2 fun u hu => ?_
    obtain ⟨j, hj, rfl⟩ := List.mem_take_iff_getElem.1 hu
    exact h j i (by omega) inside (by omega) typed
  · intro h i j hi hj lt typed
    have none := introducer?_eq_none_iff.1 (h j _ (List.getElem?_eq_getElem hj) typed)
    exact none _ (List.mem_take_iff_getElem.2 ⟨i, by omega, rfl⟩)

/-- A token of the declarations is in order when it has no type, or when its name is new and the
name of its type is in front of the semicolon. -/
theorem faultAt?_eq_none_iff_of_lt (ht : tokens[i]? = some t) (lt : i < m) :
    faultAt? settings tokens m i = none ↔
      ∀ type, t.kind.valueType? = some type → introducer? (tokens.take i) t.lexeme = none ∧
        announcedType? (tokens.take m) i = some (settings.dialect.typeName type) := by
  cases hv : t.kind.valueType? with
  | none =>
    cases hid : t.isIdentifier with
    | false => simp [faultAt?_of_not_identifier ht hid]
    | true => simp [faultAt?_of_program ht lt (Token.kind_of_untyped hid hv)]
  | some type =>
    have hid := Token.isIdentifier_of_valueType? hv
    rw [faultAt?_of_variable ht lt hv, declarationFault?_eq_none_iff,
      announcedType?_take ht lt (isSemicolon_of_isIdentifier hid)]
    simp

/-- The declarations pass their checks when no name is repeated and every type is announced. -/
theorem quiet_declarations_iff (le : m ≤ tokens.length) :
    (∀ i < m, faultAt? settings tokens m i = none) ↔
      NoneRepeats (tokens.take m) ∧ Announced settings (tokens.take m) := by
  have inside {i : Nat} {t : Token} :
      (tokens.take m)[i]? = some t ↔ i < m ∧ tokens[i]? = some t := by
    rw [List.getElem?_take]
    split <;> simp_all
  have front {i : Nat} (lt : i < m) : (tokens.take m).take i = tokens.take i := by
    rw [List.take_take, Nat.min_eq_left (by omega)]
  rw [noneRepeats_iff]
  constructor
  · intro quiet
    constructor
    · intro i t ht typed
      obtain ⟨lt, ht⟩ := inside.1 ht
      obtain ⟨type, hv⟩ := Option.isSome_iff_exists.1 typed
      rw [front lt]
      exact ((faultAt?_eq_none_iff_of_lt ht lt).1 (quiet i lt) type hv).1
    · intro i t type ht hv
      obtain ⟨lt, ht⟩ := inside.1 ht
      exact ((faultAt?_eq_none_iff_of_lt ht lt).1 (quiet i lt) type hv).2
  · rintro ⟨fresh, announced⟩ i lt
    have ht : tokens[i]? = some tokens[i] := List.getElem?_eq_getElem (by omega)
    refine (faultAt?_eq_none_iff_of_lt ht lt).2 fun type hv => ⟨?_, ?_⟩
    · rw [← front lt]
      exact fresh i _ (inside.2 ⟨lt, ht⟩) (by rw [hv]; rfl)
    · exact announced i _ type (inside.2 ⟨lt, ht⟩) hv

/-- The declarations of a stream without a fault pass their checks. -/
theorem passed_of_quiet {settings : Settings} {declarations body : List Token}
    (quiet : ∀ i, faultAt? settings (declarations ++ body) declarations.length i = none) :
    NoneRepeats declarations ∧ Announced settings declarations := by
  have le : declarations.length ≤ (declarations ++ body).length := by simp
  have := (quiet_declarations_iff le).1 fun i _ => quiet i
  rwa [List.take_left] at this

/-- Behind a semicolon a declaration is not seen. -/
theorem announcedType?_append_left (ends : Ends x) (lt : i < x.length) :
    announcedType? (x ++ y) i = announcedType? x i := by
  obtain ⟨front, t, rfl, semicolon⟩ := ends
  have short : i ≤ front.length := by
    rw [List.length_append, List.length_singleton] at lt
    omega
  have any : ((front ++ [t]).drop i).any Token.isSemicolon = true := by
    rw [List.drop_append_of_le_length short, List.any_append, List.any_cons, semicolon]
    simp
  rw [← List.findIdx?_isSome] at any
  obtain ⟨n, hn⟩ := Option.isSome_iff_exists.1 any
  have found : beforeSemicolon ((front ++ [t]).drop i) = some (((front ++ [t]).drop i).take n) := by
    rw [beforeSemicolon_eq, hn]
    rfl
  unfold announcedType?
  rw [beforeSemicolon_drop_append y found, found]

theorem announcedType?_append_right :
    announcedType? (x ++ y) (x.length + i) = announcedType? y i := by
  unfold announcedType?
  rw [List.drop_length_add_append]

theorem announced_append (ends : x = [] ∨ Ends x) :
    Announced settings (x ++ y) ↔ Announced settings x ∧ Announced settings y := by
  have left {i : Nat} (lt : i < x.length) : announcedType? (x ++ y) i = announcedType? x i := by
    rcases ends with rfl | ends
    · cases lt
    · exact announcedType?_append_left ends lt
  constructor
  · intro h
    constructor
    · intro i t type ht hv
      have lt := (List.getElem?_eq_some_iff.1 ht).1
      rw [← left lt]
      exact h i t type (by rw [List.getElem?_append_left lt, ht]) hv
    · intro i t type ht hv
      rw [← announcedType?_append_right (x := x)]
      refine h (x.length + i) t type ?_ hv
      rw [List.getElem?_append_right (by omega), Nat.add_sub_cancel_left, ht]
  · rintro ⟨first, second⟩ i t type ht hv
    by_cases lt : i < x.length
    · rw [List.getElem?_append_left lt] at ht
      rw [left lt]
      exact first i t type ht hv
    · obtain ⟨j, rfl⟩ := Nat.exists_eq_add_of_le (Nat.not_lt.1 lt)
      rw [List.getElem?_append_right (by omega), Nat.add_sub_cancel_left] at ht
      rw [announcedType?_append_right]
      exact second j t type ht hv

end Checks

/-! ## The tables, piece by piece -/

section Along

variable {α β : Type} {look look' : List Token → Token → Option α}

/-- What a look at each token, and at the tokens in front of it, finds. -/
def along (look : List Token → Token → Option α) : List Token → List Token → List α
  | _, [] => []
  | before, t :: rest => (look before t).toList ++ along look (before ++ [t]) rest

theorem along_append (before x y : List Token) :
    along look before (x ++ y) = along look before x ++ along look (before ++ x) y := by
  induction x generalizing before with
  | nil => rw [List.append_nil]; rfl
  | cons t x ih => simp only [List.cons_append, along, ih, List.append_assoc, List.nil_append]

/-- What is found depends on what each look finds. -/
theorem along_congr {before before' rest : List Token}
    (h : ∀ front t back, rest = front ++ t :: back →
      look (before ++ front) t = look' (before' ++ front) t) :
    along look before rest = along look' before' rest := by
  induction rest generalizing before before' with
  | nil => rfl
  | cons t rest ih =>
    have first := h [] t rest rfl
    rw [List.append_nil, List.append_nil] at first
    rw [along, along, first, ih]
    intro front u back e
    have := h (t :: front) u back (by rw [e]; rfl)
    simpa using this

theorem map_along (f : α → β) (before rest : List Token) :
    (along look before rest).map f = along (fun front t => (look front t).map f) before rest := by
  induction rest generalizing before with
  | nil => rfl
  | cons t rest ih =>
    rw [along, along, List.map_append, ih]
    cases look before t <;> rfl

theorem filterMap_range_eq_along (tokens : List Token) (k : Nat) :
    ((List.range k).filterMap fun i => tokens[i]?.bind (look (tokens.take i))) =
      along look [] (tokens.take k) := by
  induction k with
  | zero => rfl
  | succ k ih =>
    rw [filterMap_range_succ, ih]
    cases ht : tokens[k]? with
    | none => rw [take_succ_of_none ht]; simp
    | some t => rw [take_concat ht, along_append]; simp [along]

end Along

/-- The symbol of a token behind others. -/
def symbolBehind (settings : Settings) (before : List Token) (t : Token) : Option Symbol :=
  symbolAt? settings (before ++ [t]) before.length

/-- The entry of a token behind others, if it introduces a program name. -/
def programBehind (before : List Token) (t : Token) : Option AddressEntry :=
  programAt? (before ++ [t]) before.length

theorem symbolBehind_eq (settings : Settings) (before : List Token) (t : Token) :
    symbolBehind settings before t = t.kind.valueType?.map fun type =>
      { kind := t.kind, lexeme := t.lexeme, value := type.initialValue,
        scope := scopeAfter settings before, address := distinctNames before } := by
  simp [symbolBehind, symbolAt?]

theorem programBehind_eq (before : List Token) (t : Token) :
    programBehind before t = if t.kind = .generalId ∧ introducer? before t.lexeme = none then
      some { kind := .generalId, lexeme := t.lexeme, line := t.line, vci := 0 } else none := by
  simp [programBehind, programAt?]

theorem symbols_eq_along (settings : Settings) (tokens : List Token) (m : Nat) :
    (List.range m).filterMap (symbolAt? settings tokens) =
      along (symbolBehind settings) [] (tokens.take m) := by
  rw [← filterMap_range_eq_along]
  congr 1
  funext i
  simp only [symbolBehind_eq, symbolAt?]

theorem programs_eq_along (tokens : List Token) (m : Nat) :
    (List.range m).filterMap (programAt? tokens) = along programBehind [] (tokens.take m) := by
  rw [← filterMap_range_eq_along]
  congr 1
  funext i
  simp only [programBehind_eq, programAt?]

/-- What an analysis leaves of declarations in front of a body. -/
theorem tables_of_declarations {settings : Settings} {declarations body : List Token} {a : Analysis}
    (begins : (declarations ++ body).findIdx? Token.isBegin = some declarations.length)
    (h : (analyze settings (declarations ++ body)).outcome = .ok a) :
    a.symbols = tableAt settings declarations declarations.length ∧
      a.symbols.symbols = along (symbolBehind settings) [] declarations ∧
      a.programs.entries = along programBehind [] declarations ∧
      a.tally = bodyTally (declarations ++ body) declarations.length
        (declarations ++ body).length := by
  obtain ⟨m, hm, symbols, programs, -⟩ := tables_of_analyze h
  obtain rfl := Option.some.inj (begins.symm.trans hm)
  rw [symbols_eq_along, List.take_left] at symbols
  rw [programs_eq_along, List.take_left] at programs
  obtain ⟨-, rfl⟩ := (outcome_analyze_eq_ok_iff_of_begin begins).1 h
  exact ⟨tableAt_append body (Nat.le_refl _), symbols, programs, rfl⟩

/-! ## The addresses, piece by piece -/

section Addresses

variable {tokens : List Token} {m i : Nat} {t : Token}

/-- Where a name is introduced tells its address: that of a variable is the number of names in front
of it. -/
theorem addressOf?_of_introduces (settings : Settings) (h : Introduces tokens i t) (lt : i < m) :
    (tableAt settings tokens m).addressOf? t.lexeme =
      some (if t.kind.valueType?.isSome then distinctNames (tokens.take i) else 0) := by
  have keeps := SymbolTable.keeps_after (requests settings tokens i)
  have unknown : (tableAt settings tokens i).isKnown t.lexeme = false := by
    rw [isKnown_tableAt, h.new]
    rfl
  have known : (tableAt settings tokens (i + 1)).isKnown t.lexeme = true := by
    rw [isKnown_tableAt]
    exact isSome_introducer?_take_iff.2 ⟨i, Nat.lt_succ_self i, t, h.here, h.isIdentifier, rfl⟩
  rw [addressOf?_tableAt_of_le settings tokens (Nat.succ_le_of_lt lt) known]
  cases hv : t.kind.valueType? with
  | none =>
    rw [tableAt_succ settings tokens (requestAt?_of_program h.here h.isIdentifier hv)]
    exact SymbolTable.addressOf?_serve keeps unknown
  | some type =>
    rw [tableAt_succ settings tokens (requestAt?_of_variable h.here hv),
      ← knownCount_tableAt settings tokens i]
    exact SymbolTable.addressOf?_serve keeps unknown
      (r := .var t.lexeme type (scopeAfter settings (tokens.take i)))

theorem identifierNames_append (x y : List Token) :
    identifierNames (x ++ y) = identifierNames x ++ identifierNames y := by
  rw [identifierNames, List.filter_append, List.map_append]
  rfl

theorem identifierNames_concat (tokens : List Token) (t : Token) :
    identifierNames (tokens ++ [t]) =
      identifierNames tokens ++ if t.isIdentifier then [t.lexeme] else [] := by
  rw [identifierNames_append]
  cases hid : t.isIdentifier <;> simp [identifierNames, hid]

/-- A new identifier is a name more. -/
theorem distinctNames_concat (hid : t.isIdentifier = true)
    (new : introducer? tokens t.lexeme = none) :
    distinctNames (tokens ++ [t]) = distinctNames tokens + 1 := by
  have fresh : t.lexeme ∉ (identifierNames tokens).toFinset := by
    rw [List.mem_toFinset, ← introducer?_isSome_iff, new]
    exact Bool.false_ne_true
  have names : (identifierNames (tokens ++ [t])).toFinset =
      insert t.lexeme (identifierNames tokens).toFinset := by
    rw [identifierNames_concat, if_pos hid, List.toFinset_append, Finset.union_comm]
    rfl
  rw [distinctNames, names, Finset.card_insert_of_notMem fresh]
  rfl

/-- An identifier that has a type introduces its name, when no name is repeated. -/
theorem introduces_of_noneRepeats {before after : List Token}
    (fresh : NoneRepeats (before ++ t :: after)) (hid : t.isIdentifier = true)
    (typed : t.kind ≠ .generalId) :
    Introduces (before ++ t :: after) before.length t ∧ t.kind.valueType?.isSome = true ∧
      introducer? before t.lexeme = none := by
  have here : (before ++ t :: after)[before.length]? = some t := by simp
  have isSome : t.kind.valueType?.isSome = true :=
    (Kind.isIdentifier_iff.1 hid).resolve_right typed
  have new := noneRepeats_iff.1 fresh _ t here isSome
  refine ⟨⟨here, hid, new⟩, isSome, ?_⟩
  rw [List.take_left] at new
  exact new

/-- The names of a piece without program names are new, and their addresses are the next ones. -/
theorem addresses_of_piece (settings : Settings) (before piece after : List Token)
    (fresh : NoneRepeats (before ++ (piece ++ after)))
    (noProgram : ∀ t ∈ piece, t.kind ≠ .generalId) :
    distinctNames (before ++ piece) = distinctNames before + (identifierNames piece).length ∧
    (identifierNames piece).map
        (tableAt settings (before ++ (piece ++ after))
          (before ++ (piece ++ after)).length).addressOf? =
      (List.range' (distinctNames before) (identifierNames piece).length).map some := by
  induction piece using List.reverseRecOn generalizing after with
  | nil => simp [identifierNames]
  | append_singleton piece t ih =>
    have cut : before ++ (piece ++ [t] ++ after) = before ++ (piece ++ t :: after) := by simp
    rw [cut] at fresh ⊢
    obtain ⟨count, addresses⟩ := ih _ fresh fun u mem => noProgram u (List.mem_append_left _ mem)
    rw [identifierNames_concat, ← List.append_assoc]
    cases hid : t.isIdentifier with
    | false =>
      have same : distinctNames (before ++ piece ++ [t]) = distinctNames (before ++ piece) := by
        rw [distinctNames, identifierNames_concat, hid, if_neg Bool.false_ne_true, List.append_nil]
        rfl
      rw [same, if_neg Bool.false_ne_true, List.append_nil]
      exact ⟨count, addresses⟩
    | true =>
      rw [← List.append_assoc] at fresh addresses ⊢
      obtain ⟨introduced, isSome, new⟩ := introduces_of_noneRepeats fresh hid
        (noProgram t (List.mem_append_right _ List.mem_cons_self))
      have address := addressOf?_of_introduces settings introduced
        (m := (before ++ piece ++ t :: after).length) (by simp)
      rw [isSome, if_pos rfl, List.take_left, count] at address
      rw [distinctNames_concat hid new, count, if_pos rfl, List.length_append, List.map_append,
        addresses, List.map_singleton, address, List.length_singleton, List.range'_1_concat,
        List.map_append]
      exact ⟨rfl, rfl⟩

end Addresses

end Pseudocode
