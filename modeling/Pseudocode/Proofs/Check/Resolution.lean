/-
  Pseudocode.Proofs.Check.Resolution — what an analysis does to the stream, and what it counts.

  A name gets its address while the symbol table still grows, and its later occurrences look it up
  in a table that knows more. They find the same address, since a known name keeps its own; so the
  stream is returned as if every identifier had been looked up in the last table. Addresses stay
  below the number of known names, which is at most the number of tokens.

  Proved:
  (1) No more names are known than there are tokens (`knownCount_le_length`).
  (2) Without a fault every identifier has its name in the last table (`isKnown_of_quiet`).
  (3) What becomes of each token of a successful analysis, and what each counter counts
      (`resolved_of_analyze`).
-/

import Pseudocode.Proofs.Check.Tables

namespace Pseudocode

/-! ## Counting -/

theorem distinctNames_le_length (tokens : List Token) : distinctNames tokens ≤ tokens.length := by
  have names : distinctNames tokens ≤ (identifierNames tokens).length := List.toFinset_card_le _
  have identifiers : (identifierNames tokens).length ≤ tokens.length := by
    unfold identifierNames
    rw [List.length_map]
    exact List.length_filter_le _ _
  exact names.trans identifiers

/-- No more names are known than there are tokens. -/
theorem knownCount_le_length (settings : Settings) (tokens : List Token) (m : Nat) :
    (tableAt settings tokens m).knownCount ≤ tokens.length := by
  have names := distinctNames_le_length (tokens.take m)
  have short : (tokens.take m).length ≤ tokens.length := List.length_take_le' m tokens
  rw [knownCount_tableAt]
  omega

/-- Counting positions is counting the tokens that stand there. -/
theorem countP_range_any (tokens : List Token) (p : Token → Bool) (k : Nat) :
    (List.range k).countP (fun i => tokens[i]?.any p) = (tokens.take k).countP p := by
  induction k with
  | zero => rfl
  | succ k ih =>
    rw [countP_range_succ, ih]
    cases ht : tokens[k]? with
    | none => rw [take_succ_of_none ht]; rfl
    | some t => rw [take_concat ht, List.countP_append, List.countP_singleton]; rfl

/-- Declarations without a fault leave one symbol for each typed identifier. -/
theorem length_symbols_tableAt {settings : Settings} {tokens : List Token} {m : Nat}
    (quiet : ∀ i, faultAt? settings tokens m i = none) :
    (tableAt settings tokens m).symbols.length =
      (tokens.take m).countP (·.kind.valueType?.isSome) := by
  have isSome_symbolAt? (i : Nat) : (symbolAt? settings tokens i).isSome =
      tokens[i]?.any (·.kind.valueType?.isSome) := by
    cases ht : tokens[i]? <;> simp [symbolAt?, ht]
  rw [symbols_of_quiet quiet]
  simp only [List.length_filterMap_eq_countP, isSome_symbolAt?, countP_range_any]

/-! ## Resolved identifiers -/

/-- A position without a fault has an identifier that the declarations make known. -/
theorem isKnown_of_quiet {settings : Settings} {tokens : List Token} {m i : Nat} {t : Token}
    (quiet : faultAt? settings tokens m i = none) (ht : tokens[i]? = some t)
    (hid : t.isIdentifier = true) : (tableAt settings tokens m).isKnown t.lexeme = true := by
  rw [isKnown_tableAt]
  rcases Nat.lt_or_ge i m with lt | ge
  · -- a declaration makes its own name known
    exact isSome_introducer?_take_iff.2 ⟨i, lt, t, ht, hid, rfl⟩
  · cases hi : introducer? (tokens.take m) t.lexeme with
    | some first => rfl
    | none =>
      rw [faultAt?_of_reference ht ge hid, referenceFault?, hi] at quiet
      cases quiet

/-- What a successful analysis of a stream whose body starts at `m` makes of its tokens, and what
it counts. -/
structure Resolved (tokens : List Token) (m : Nat) (a : Analysis) : Prop where
  length_eq : a.tokens.length = tokens.length
  /-- An identifier gets the address of its name, and nothing else of it changes. -/
  identifier : ∀ (i : Nat) (t : Token), tokens[i]? = some t → t.isIdentifier = true →
    ∃ address, a.symbols.addressOf? t.lexeme = some address ∧ address < a.symbols.knownCount ∧
      a.tokens[i]? = some { t with resolved := some address }
  other : ∀ (i : Nat) (t : Token), tokens[i]? = some t → t.isIdentifier = false →
    a.tokens[i]? = some t
  knownCount_le : a.symbols.knownCount ≤ tokens.length
  /-- Up to as many tokens as a signed word of 64 bits counts, every address is shown as it is. -/
  tableIndex_eq : (tokens.length : Int) ≤ Int64.maxValue.toInt →
    ∀ t ∈ a.tokens, t.isIdentifier = true →
      ∃ address : Nat, a.symbols.addressOf? t.lexeme = some address ∧ t.tableIndex = address
  length_symbols : a.symbols.symbols.length = a.tally.declarations
  tally_eq : a.tally =
    { tokens := tokens.length
      declarations := (tokens.take m).countP (·.kind.valueType?.isSome)
      references := (List.range tokens.length).countP (isReferenceAt tokens m)
      assignments := (List.range tokens.length).countP (startsAssignmentAt tokens m)
      conditions := (List.range tokens.length).countP (startsConditionAt tokens m) }

/-- A successful analysis resolves every identifier to the address of its name, leaves all else as
it was, and counts exactly. -/
theorem resolved_of_analyze {settings : Settings} {tokens : List Token} {a : Analysis}
    (h : (analyze settings tokens).outcome = .ok a) :
    ∃ m, tokens.findIdx? Token.isBegin = some m ∧ Resolved tokens m a := by
  obtain ⟨m, hm, quiet, rfl⟩ := outcome_analyze_eq_ok_iff.1 h
  have keeps := SymbolTable.keeps_after (requests settings tokens m)
  have found (i : Nat) (t : Token) (ht : tokens[i]? = some t) (hid : t.isIdentifier = true) :
      ∃ address, (tableAt settings tokens m).addressOf? t.lexeme = some address ∧
        address < (tableAt settings tokens m).knownCount := by
    have known := isKnown_of_quiet (quiet i) ht hid
    rw [← SymbolTable.isSome_addressOf?] at known
    obtain ⟨address, ha⟩ := Option.isSome_iff_exists.1 known
    exact ⟨address, ha, SymbolTable.addressOf?_lt keeps ha⟩
  have returned (i : Nat) (t : Token) (ht : tokens[i]? = some t) :
      (analysisOf settings tokens m).tokens[i]? =
        some (annotate (tableAt settings tokens m) t) := by
    unfold analysisOf
    rw [List.getElem?_map, ht]
    rfl
  refine ⟨m, hm, ?_⟩
  constructor
  case length_eq => exact List.length_map _
  case identifier =>
    intro i t ht hid
    obtain ⟨address, ha, lt⟩ := found i t ht hid
    refine ⟨address, ha, lt, ?_⟩
    rw [returned i t ht, annotate_of_addressOf? hid ha]
    rfl
  case other =>
    intro i t ht hid
    rw [returned i t ht, annotate_of_not_identifier hid]
  case knownCount_le => exact knownCount_le_length settings tokens m
  case tableIndex_eq =>
    intro short u hu hid
    obtain ⟨t, hm, rfl⟩ := List.mem_map.1 hu
    obtain ⟨i, ht⟩ := List.getElem?_of_mem hm
    cases hid' : t.isIdentifier with
    | false =>
      rw [annotate_of_not_identifier hid', hid'] at hid
      cases hid
    | true =>
      obtain ⟨address, ha, lt⟩ := found i t ht hid'
      have le := knownCount_le_length settings tokens m
      have fits : (address : Int) ≤ Int64.maxValue.toInt := by omega
      rw [annotate_of_addressOf? hid' ha, Token.lexeme_resolve]
      exact ⟨address, ha, t.tableIndex_resolve fits⟩
  case length_symbols => exact length_symbols_tableAt quiet
  case tally_eq => rfl

/-- A name of the body gets the address of its declaration, a parenthesis stays as it was. -/
theorem resolved_renamedProgram :
    ∃ a, (analyze {} renamedProgram).outcome = .ok a ∧
      a.tokens[20]? = some { Token.plain .realId "r" 10 with resolved := some 3 } ∧
      a.tokens[19]? = some (.plain .leftParen "(" 10) ∧
      a.tally = ⟨28, 3, 3, 1, 1⟩ := by
  have h : (analyze {} renamedProgram).outcome = .ok (analysisOf {} renamedProgram 13) := rfl
  obtain ⟨m, hm, resolved⟩ := resolved_of_analyze h
  have : m = 13 := Option.some.inj (hm.symm.trans (by decide))
  subst this
  obtain ⟨address, ha, -, body⟩ := resolved.identifier 20 (.plain .realId "r" 10) rfl rfl
  have : address = 3 := Option.some.inj (ha.symm.trans (by decide))
  subst this
  exact ⟨_, h, body, resolved.other 19 _ rfl rfl, resolved.tally_eq.trans (by decide)⟩

end Pseudocode
