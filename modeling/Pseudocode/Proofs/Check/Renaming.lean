/-
  Pseudocode.Proofs.Check.Renaming — what an analysis makes of names.

  An analysis never looks into a lexeme. It compares lexemes with each other, to tell names apart,
  and with the words that the dialect has for types. So the names of a program may be exchanged for
  others, as long as different names stay different and the words of one dialect become those of
  the other: what the analysis decides, counts and numbers is the same, and where it shows a name
  it shows the new one. Lines, positions and spans decide nothing at all.

  The proof goes through the positions. Two streams of which one is the other renamed agree on
  every look-ahead, since those go by kinds (`findIdx?_of_renamed`); they introduce corresponding
  names at the same positions (`introducer?_of_renamed`); so each position has the fault of its
  counterpart (`faultAt?_of_renamed`) and adds to the tables what its counterpart adds.

  Proved:
  (1) A position of a renamed stream has the fault of its counterpart, renamed and about the token
      that stands there (`faultAt?_of_renamed`).
  (2) Known names keep their addresses (`addresses_tableAt_of_renamed`), symbols and program names
      their places in the tables (`symbolAt?_of_renamed`, `programAt?_of_renamed`), and nothing is
      counted differently (`bodyTally_of_renamed`).
  (3) The analysis of a renamed stream is that of the stream, renamed (`analyze_of_renaming`).
-/

import Pseudocode.Proofs.Check.Tables

namespace Pseudocode

/-! ## Renamed streams -/

/-- `u` has the kind of `t` and its lexeme, renamed. -/
structure Token.RenamesTo (r : String → String) (t u : Token) : Prop where
  kind : u.kind = t.kind
  lexeme : u.lexeme = r t.lexeme

/-- `u` is `t` with its lexeme renamed; line, position and span may be any. -/
structure Token.RecastAs (r : String → String) (t u : Token) : Prop extends t.RenamesTo r u where
  resolved : u.resolved = t.resolved

theorem Token.RenamesTo.isIdentifier {r : String → String} {t u : Token} (h : t.RenamesTo r u) :
    u.isIdentifier = t.isIdentifier := by
  rw [Token.isIdentifier, Token.isIdentifier, h.kind]

/-- One stream is the other with all its lexemes renamed. -/
abbrev Renamed (r : String → String) (tokens others : List Token) : Prop :=
  List.Forall₂ (Token.RenamesTo r) tokens others

/-- Settings that say of renamed streams what others say of the streams themselves: the words for
types are renamed, and the rest is the same. -/
structure Settings.RenamesTo (r : String → String) (s s' : Settings) : Prop where
  word : ∀ type, r (s.dialect.typeName type) = s'.dialect.typeName type
  scan : s'.scan = s.scan
  defaultScope : s'.defaultScope = s.defaultScope

/-- The fault of a renamed token that stands at `p`. -/
def Fault.renamed (r : String → String) (p : Place) : Fault → Fault
  | .duplicateDeclaration _ => .duplicateDeclaration p
  | .typeMismatch _ expected found => .typeMismatch p (r expected) (r found)
  | .undeclared _ => .undeclared p
  | .invalidAssignment _ target reason => .invalidAssignment p target reason
  | .invalidCondition _ construct => .invalidCondition p construct
  | .unterminated _ terminator => .unterminated p terminator
  | .malformedRecord record message span => .malformedRecord record message span
  | .missingBody => .missingBody
  | .io message => .io message

/-- Lists that agree position by position are mapped to one list by functions that agree there. -/
theorem map_eq_map_of_forall₂ {α β γ : Type} {R : α → β → Prop} {f : α → γ} {g : β → γ}
    {xs : List α} {ys : List β} (h : List.Forall₂ R xs ys) (same : ∀ x y, R x y → f x = g y) :
    xs.map f = ys.map g := by
  rw [← List.forall₂_eq_eq_eq, List.forall₂_map_left_iff, List.forall₂_map_right_iff]
  exact h.imp same

/-- Lists that agree position by position have related elements at each position, or none. -/
theorem rel_getElem? {α β : Type} {R : α → β → Prop} {xs : List α} {ys : List β}
    (h : List.Forall₂ R xs ys) (i : Nat) : Option.Rel R xs[i]? ys[i]? := by
  induction h generalizing i with
  | nil => exact .none
  | cons head _ ih =>
    cases i with
    | zero => exact .some head
    | succ i => exact ih i

theorem map_eq_zipWith_of_forall₂ {α β γ : Type} {R : α → β → Prop} {f : β → γ} {g : β → α → γ}
    {xs : List α} {ys : List β} (h : List.Forall₂ R xs ys) (same : ∀ x y, R x y → f y = g y x) :
    ys.map f = List.zipWith g ys xs := by
  induction h with
  | nil => rfl
  | cons head _ ih => rw [List.map_cons, List.zipWith_cons_cons, same _ _ head, ih]

theorem forall₂_filterMap_range {α β : Type} {R : α → β → Prop} {f : Nat → Option α}
    {g : Nat → Option β} {m : Nat} (same : ∀ i < m, Option.Rel R (f i) (g i)) :
    List.Forall₂ R ((List.range m).filterMap f) ((List.range m).filterMap g) := by
  have positions : List.Forall₂ (fun i j => i = j ∧ i < m) (List.range m) (List.range m) :=
    List.forall₂_same.2 fun i hi => ⟨rfl, List.mem_range.1 hi⟩
  refine List.rel_filterMap ?_ positions
  rintro i j ⟨rfl, lt⟩
  exact same i lt

/-- Related values are both missing or both there. -/
theorem cases_of_rel {α β : Type} {R : α → β → Prop} {x? : Option α} {y? : Option β}
    (h : Option.Rel R x? y?) :
    (x? = none ∧ y? = none) ∨ ∃ x y, x? = some x ∧ y? = some y ∧ R x y := by
  cases h with
  | none => exact .inl ⟨rfl, rfl⟩
  | some same => exact .inr ⟨_, _, rfl, rfl, same⟩

theorem rel_find? {α β : Type} {R : α → β → Prop} {p : α → Bool} {q : β → Bool} {xs : List α}
    {ys : List β} (h : List.Forall₂ R xs ys) (same : ∀ x y, R x y → q y = p x) :
    Option.Rel R (xs.find? p) (ys.find? q) := by
  induction h with
  | nil => exact .none
  | cons head _ ih =>
    rw [List.find?_cons, List.find?_cons, same _ _ head]
    split
    · exact .some head
    · exact ih

section Lookahead

variable {r : String → String} {tokens others : List Token} (h : Renamed r tokens others)

include h

theorem Renamed.take (k : Nat) : Renamed r (tokens.take k) (others.take k) := List.forall₂_take k h

theorem Renamed.drop (k : Nat) : Renamed r (tokens.drop k) (others.drop k) := List.forall₂_drop k h

theorem Renamed.kinds : others.map Token.kind = tokens.map Token.kind :=
  (map_eq_map_of_forall₂ h fun _ _ same => same.kind.symm).symm

/-! ## Look-aheads -/

theorem findIdx?_of_renamed (p : Kind → Bool) :
    others.findIdx? (fun t => p t.kind) = tokens.findIdx? (fun t => p t.kind) := by
  have kinds := congrArg (List.findIdx? p) h.kinds
  rwa [List.findIdx?_map, List.findIdx?_map] at kinds

theorem any_getElem?_of_renamed (p : Kind → Bool) (i : Nat) :
    others[i]?.any (fun t => p t.kind) = tokens[i]?.any (fun t => p t.kind) := by
  rcases cases_of_rel (rel_getElem? h i) with ⟨ht, hu⟩ | ⟨t, u, ht, hu, same⟩
  · rw [ht, hu]
  · rw [ht, hu, Option.any_some, Option.any_some, same.kind]

theorem kindsOf_of_renamed : kindsOf others = kindsOf tokens := by
  unfold kindsOf
  rw [h.kinds]

theorem beforeSemicolon_of_renamed :
    Option.Rel (Renamed r) (beforeSemicolon tokens) (beforeSemicolon others) := by
  have same : others.findIdx? Token.isSemicolon = tokens.findIdx? Token.isSemicolon :=
    findIdx?_of_renamed h (· = .semicolon)
  rw [beforeSemicolon_eq, beforeSemicolon_eq, same]
  cases tokens.findIdx? Token.isSemicolon with
  | none => exact .none
  | some n => exact .some (h.take n)

theorem conditionEnd?_of_renamed (construct : Construct) (start : Nat) :
    conditionEnd? construct others start = conditionEnd? construct tokens start := by
  unfold conditionEnd?
  rw [findIdx?_of_renamed (h.drop _) (· = construct.closingKind)]

theorem keywordBefore?_of_renamed (i : Nat) :
    keywordBefore? others i = keywordBefore? tokens i := by
  unfold keywordBefore?
  rcases cases_of_rel (rel_getElem? h (i - 2)) with ⟨ht, hu⟩ | ⟨t, u, ht, hu, same⟩
  · rw [ht, hu]
  · rw [ht, hu, Option.bind_some, Option.bind_some, same.kind]

/-! ## Assignments and conditions -/

theorem judgeAssignment_of_renamed (t u : Token) (type : ValueType) :
    judgeAssignment u type others =
      (judgeAssignment t type tokens).mapError (Fault.renamed r u.place) := by
  unfold judgeAssignment
  rw [kindsOf_of_renamed h]
  cases (AssignmentRule.ofType type).violation? (kindsOf tokens) <;> rfl

theorem fault?_checkAssignment_of_renamed (scan : AssignmentScan) (i : Nat) (t u : Token)
    (target : Option ValueType) :
    (checkAssignment scan others i u target).fault? =
      (checkAssignment scan tokens i t target).fault?.map (Fault.renamed r u.place) := by
  have lifted {ts us : List Token} (part : Renamed r ts us) (type : ValueType) :
      (Traced.lift (judgeAssignment u type us)).fault? =
        (Traced.lift (judgeAssignment t type ts)).fault?.map (Fault.renamed r u.place) := by
    rw [judgeAssignment_of_renamed part t u type]
    cases judgeAssignment t type ts <;> rfl
  cases scan with
  | statement =>
    simp only [checkAssignment]
    rcases cases_of_rel (beforeSemicolon_of_renamed (h.drop (i + 2))) with
      ⟨hx, hy⟩ | ⟨expression, other, hx, hy, part⟩
    · rw [hx, hy]
      rfl
    · rw [hx, hy]
      cases target with
      | none => rfl
      | some type => exact lifted part type
  | leading =>
    have head : others.head?.bind (·.kind.valueType?) = tokens.head?.bind (·.kind.valueType?) := by
      cases h with
      | nil => rfl
      | cons same _ => exact congrArg Kind.valueType? same.kind
    simp only [checkAssignment]
    rw [head]
    rcases cases_of_rel (beforeSemicolon_of_renamed h) with
      ⟨hx, hy⟩ | ⟨statement, other, hx, hy, part⟩
    · rw [hx, hy]
      rfl
    · rw [hx, hy]
      cases tokens.head?.bind (·.kind.valueType?) with
      | none => rfl
      | some type => exact lifted part type

theorem fault?_checkCondition_of_renamed (construct : Construct) (i : Nat) (t u : Token) :
    (checkCondition construct others i u).fault? =
      (checkCondition construct tokens i t).fault?.map (Fault.renamed r u.place) := by
  unfold checkCondition
  rw [conditionEnd?_of_renamed h]
  cases conditionEnd? construct tokens i with
  | none => rfl
  | some last =>
    have kinds : kindsOf (tokensFrom others i last) = kindsOf (tokensFrom tokens i last) :=
      kindsOf_of_renamed ((h.drop i).take (last + 1 - i))
    simp only [kinds]
    cases (kindsOf (tokensFrom tokens i last)).intersects
        (KindSet.matching Kind.isConditionOperator) <;> rfl

end Lookahead

/-! ## Names -/

/-- A scope that is open behind some tokens, renamed: it is a name if a program was named. -/
def renamedScope (r : String → String) (tokens : List Token) (scope : String) : String :=
  if tokens.any (·.kind = .generalId) then r scope else scope

section Names

variable {r : String → String} {tokens others : List Token} (h : Renamed r tokens others)

include h

theorem scopeAfter_of_renamed {s s' : Settings} (hs : s.RenamesTo r s') :
    scopeAfter s' others = renamedScope r tokens (scopeAfter s tokens) := by
  have any : tokens.any (·.kind = .generalId) =
      (tokens.reverse.find? (·.kind = .generalId)).isSome := by
    rw [Bool.eq_iff_iff, List.find?_isSome]
    simp
  have last : Option.Rel (Token.RenamesTo r) (tokens.reverse.find? (·.kind = .generalId))
      (others.reverse.find? (·.kind = .generalId)) := by
    apply rel_find? (List.forall₂_reverse_iff.2 h)
    intro t u same
    rw [same.kind]
  unfold renamedScope
  rw [any, scopeAfter, scopeAfter, hs.defaultScope]
  rcases cases_of_rel last with ⟨ht, hu⟩ | ⟨t, u, ht, hu, same⟩
  · rw [ht, hu]
    rfl
  · rw [ht, hu]
    exact same.lexeme

theorem nextSemicolon?_of_renamed (i m : Nat) :
    nextSemicolon? others i m = nextSemicolon? tokens i m := by
  unfold nextSemicolon?
  exact congrArg _ (findIdx?_of_renamed ((h.take m).drop (i + 1)) (· = .semicolon))

theorem announcement?_of_renamed (i m : Nat) :
    Option.Rel (Token.RenamesTo r) (announcement? tokens i m) (announcement? others i m) := by
  unfold announcement?
  rw [nextSemicolon?_of_renamed h]
  cases nextSemicolon? tokens i m with
  | none => exact .none
  | some semicolon => exact rel_getElem? h (semicolon - 1)

variable (inj : Function.Injective r)

include inj

/-- A name is introduced by the counterpart of the token that introduced it. -/
theorem introducer?_of_renamed (x : String) :
    Option.Rel (Token.RenamesTo r) (introducer? tokens x) (introducer? others (r x)) := by
  apply rel_find? h
  intro t u same
  have lexeme : decide (r t.lexeme = r x) = decide (t.lexeme = x) := by
    rw [decide_eq_decide, inj.eq_iff]
  rw [Token.names, Token.names, same.isIdentifier, same.lexeme, lexeme]

theorem isSome_introducer?_of_renamed (x : String) :
    (introducer? others (r x)).isSome = (introducer? tokens x).isSome := by
  rcases cases_of_rel (introducer?_of_renamed h inj x) with ⟨ht, hu⟩ | ⟨t, u, ht, hu, -⟩
  · rw [ht, hu]
  · rw [ht, hu]
    rfl

theorem introducer?_eq_none_of_renamed (x : String) :
    introducer? others (r x) = none ↔ introducer? tokens x = none := by
  rw [← Option.isSome_eq_false_iff.trans Option.isNone_iff_eq_none,
    isSome_introducer?_of_renamed h inj]
  exact Option.isSome_eq_false_iff.trans Option.isNone_iff_eq_none

theorem distinctNames_of_renamed : distinctNames others = distinctNames tokens := by
  have identifiers : Renamed r (tokens.filter Token.isIdentifier)
      (others.filter Token.isIdentifier) := by
    apply List.rel_filter (R := Token.RenamesTo r) _ h
    intro t u same
    simp [same.isIdentifier]
  have names : identifierNames others = (identifierNames tokens).map r := by
    unfold identifierNames
    rw [List.map_map]
    exact (map_eq_map_of_forall₂ identifiers fun t u same => same.lexeme.symm).symm
  have image : ((identifierNames tokens).map r).toFinset =
      (identifierNames tokens).toFinset.image r := by
    ext x
    simp
  rw [distinctNames, names, image, Finset.card_image_of_injective _ inj, distinctNames]

end Names

/-! ## Positions -/

section Positions

variable {r : String → String} {s s' : Settings} {tokens others : List Token}
  (inj : Function.Injective r) (hs : s.RenamesTo r s') (h : Renamed r tokens others)
  {t u : Token} (same : t.RenamesTo r u)

include inj hs h same

theorem declarationFault?_of_renamed (m i : Nat) (type : ValueType) :
    declarationFault? s' others m i u type =
      (declarationFault? s tokens m i t type).map (Fault.renamed r u.place) := by
  unfold declarationFault?
  rw [same.lexeme, isSome_introducer?_of_renamed (h.take i) inj]
  split
  · rfl
  · rcases cases_of_rel (announcement?_of_renamed h i m) with ⟨hx, hy⟩ | ⟨word, other, hx, hy, hw⟩
    · rw [hx, hy]
      rfl
    · rw [hx, hy]
      simp only [hw.lexeme, ← hs.word, inj.eq_iff]
      split <;> rfl

theorem referenceFault?_of_renamed (m i : Nat) :
    referenceFault? s' others m i u =
      (referenceFault? s tokens m i t).map (Fault.renamed r u.place) := by
  have assigned (target : Option ValueType) : assignmentFault? s'.scan others i u target =
      (assignmentFault? s.scan tokens i t target).map (Fault.renamed r u.place) := by
    unfold assignmentFault?
    rw [any_getElem?_of_renamed h (· = .assign), hs.scan]
    split
    · exact fault?_checkAssignment_of_renamed h s.scan i t u target
    · rfl
  have tested : conditionFault? others i u =
      (conditionFault? tokens i t).map (Fault.renamed r u.place) := by
    unfold conditionFault?
    rw [keywordBefore?_of_renamed h]
    cases keywordBefore? tokens i with
    | none => rfl
    | some construct => exact fault?_checkCondition_of_renamed h construct i t u
  unfold referenceFault?
  rw [same.lexeme]
  rcases cases_of_rel (introducer?_of_renamed (h.take m) inj t.lexeme) with
    ⟨hx, hy⟩ | ⟨first, other, hx, hy, introduced⟩
  · rw [hx, hy]
    rfl
  · rw [hx, hy]
    simp only [introduced.kind, assigned, tested, Option.map_or]

omit same in
/-- A position of a renamed stream has the fault of its counterpart, about the renamed token. -/
theorem faultAt?_of_renamed {i : Nat} (ht : tokens[i]? = some t) (hu : others[i]? = some u)
    (m : Nat) :
    faultAt? s' others m i = (faultAt? s tokens m i).map (Fault.renamed r u.place) := by
  have same : t.RenamesTo r u := by
    have := rel_getElem? h i
    rw [ht, hu] at this
    cases this
    assumption
  unfold faultAt?
  rw [ht, hu, Option.bind_some, Option.bind_some, same.isIdentifier, same.kind]
  split
  · split
    · cases t.kind.valueType? with
      | none => rfl
      | some type => exact declarationFault?_of_renamed inj hs h same m i type
    · exact referenceFault?_of_renamed inj hs h same m i
  · rfl

end Positions

/-! ## Tables -/

def Request.renamed (r : String → String) (before : List Token) : Request → Request
  | .program lexeme => .program (r lexeme)
  | .var lexeme type scope => .var (r lexeme) type (renamedScope r before scope)

/-- The symbol of a renamed variable that stands behind the tokens `before`. -/
def Symbol.renamed (r : String → String) (before : List Token) (x : Symbol) : Symbol :=
  { x with lexeme := r x.lexeme, scope := renamedScope r before x.scope }

/-- The entry of a renamed program name on another line. -/
def AddressEntry.renamed (r : String → String) (line : Nat) (e : AddressEntry) : AddressEntry :=
  { e with lexeme := r e.lexeme, line := line }

section Tables

variable {r : String → String} {s s' : Settings} {tokens others : List Token}
  (inj : Function.Injective r) (hs : s.RenamesTo r s') (h : Renamed r tokens others)

include h

theorem bodyTally_of_renamed (m k : Nat) : bodyTally others m k = bodyTally tokens m k := by
  have reference (i : Nat) : isReferenceAt others m i = isReferenceAt tokens m i := by
    exact congrArg (decide (m ≤ i) && ·) (any_getElem?_of_renamed h Kind.isIdentifier i)
  have assignment (i : Nat) : startsAssignmentAt others m i = startsAssignmentAt tokens m i := by
    unfold startsAssignmentAt
    rw [reference, any_getElem?_of_renamed h (· = .assign)]
  have condition (i : Nat) : startsConditionAt others m i = startsConditionAt tokens m i := by
    unfold startsConditionAt
    rw [reference, any_getElem?_of_renamed h (· ∈ [.ifKw, .whileKw, .untilKw])]
  have declarations : (others.take m).countP (·.kind.valueType?.isSome) =
      (tokens.take m).countP (·.kind.valueType?.isSome) := by
    have kinds := congrArg (List.countP fun k => k.valueType?.isSome) (h.take m).kinds
    rwa [List.countP_map, List.countP_map] at kinds
  unfold bodyTally
  rw [declarations, funext reference, funext assignment, funext condition, h.length_eq]

include hs

theorem requestAt?_of_renamed (i : Nat) :
    requestAt? s' others i = (requestAt? s tokens i).map (Request.renamed r (tokens.take i)) := by
  unfold requestAt?
  rw [scopeAfter_of_renamed (h.take i) hs]
  rcases cases_of_rel (rel_getElem? h i) with ⟨ht, hu⟩ | ⟨t, u, ht, hu, same⟩
  · rw [ht, hu]
    rfl
  · rw [ht, hu, Option.bind_some, Option.bind_some, same.isIdentifier, same.kind, same.lexeme]
    split
    · cases t.kind.valueType? <;> rfl
    · rfl

include inj

omit hs in
theorem isKnown_tableAt_of_renamed (k : Nat) (x : String) :
    (tableAt s' others k).isKnown (r x) = (tableAt s tokens k).isKnown x := by
  rw [isKnown_tableAt, isKnown_tableAt, isSome_introducer?_of_renamed (h.take k) inj]

/-- Known names keep their addresses. -/
theorem addresses_tableAt_of_renamed (k : Nat) :
    (tableAt s' others k).addresses = (tableAt s tokens k).addresses.map (Prod.map r id) := by
  induction k with
  | zero => rfl
  | succ k ih =>
    have next := requestAt?_of_renamed hs h k
    cases hr : requestAt? s tokens k with
    | none =>
      rw [hr] at next
      rw [tableAt_succ_of_none _ _ next, tableAt_succ_of_none _ _ hr, ih]
    | some request =>
      rw [hr, Option.map_some] at next
      rw [tableAt_succ _ _ next, tableAt_succ _ _ hr]
      have lexeme : (request.renamed r (tokens.take k)).lexeme = r request.lexeme := by
        cases request <;> rfl
      have known : (tableAt s' others k).isKnown (r request.lexeme) =
          (tableAt s tokens k).isKnown request.lexeme :=
        isKnown_tableAt_of_renamed inj h k request.lexeme
      rw [← lexeme] at known
      cases hk : (tableAt s tokens k).isKnown request.lexeme with
      | true =>
        rw [hk] at known
        rw [SymbolTable.serve_of_isKnown known, SymbolTable.serve_of_isKnown hk, ih]
      | false =>
        rw [hk] at known
        have count : (tableAt s' others k).knownCount = (tableAt s tokens k).knownCount := by
          rw [SymbolTable.knownCount, ih, List.length_map, SymbolTable.knownCount]
        rw [SymbolTable.serve_of_new known, SymbolTable.serve_of_new hk]
        simp only [ih, count, lexeme, List.map_append, List.map_singleton]
        cases request <;> rfl

theorem addressOf?_tableAt_of_renamed (k : Nat) (x : String) :
    (tableAt s' others k).addressOf? (r x) = (tableAt s tokens k).addressOf? x := by
  have same : ((fun known : String × Nat => decide (known.1 = r x)) ∘ Prod.map r id) =
      fun known => decide (known.1 = x) := by
    funext known
    exact decide_eq_decide.2 inj.eq_iff
  unfold SymbolTable.addressOf?
  rw [addresses_tableAt_of_renamed inj hs h, List.find?_map, same, Option.map_map]
  rfl

theorem annotate_of_renamed (m : Nat) {t u : Token} (same : t.RenamesTo r u)
    (resolved : u.resolved = t.resolved) :
    annotate (tableAt s' others m) u =
      { u with resolved := (annotate (tableAt s tokens m) t).resolved } := by
  have address := addressOf?_tableAt_of_renamed inj hs h m t.lexeme
  rw [← same.lexeme] at address
  unfold annotate
  rw [address, same.isIdentifier]
  split
  · cases (tableAt s tokens m).addressOf? t.lexeme with
    | none => simp [← resolved]
    | some address => rfl
  · simp [← resolved]

/-- The declaration of a renamed variable adds its symbol, renamed. -/
theorem symbolAt?_of_renamed (i : Nat) :
    symbolAt? s' others i = (symbolAt? s tokens i).map (Symbol.renamed r (tokens.take i)) := by
  unfold symbolAt?
  rw [scopeAfter_of_renamed (h.take i) hs, distinctNames_of_renamed (h.take i) inj]
  rcases cases_of_rel (rel_getElem? h i) with ⟨ht, hu⟩ | ⟨t, u, ht, hu, same⟩
  · rw [ht, hu]
    rfl
  · rw [ht, hu, Option.bind_some, Option.bind_some, same.kind, same.lexeme]
    cases t.kind.valueType? <;> rfl

omit hs in
theorem programAt?_of_renamed {i : Nat} {u : Token} (hu : others[i]? = some u) :
    programAt? others i = (programAt? tokens i).map (AddressEntry.renamed r u.line) := by
  unfold programAt?
  rcases cases_of_rel (rel_getElem? h i) with ⟨-, none⟩ | ⟨t, u', ht, hu', same⟩
  · rw [hu] at none
    cases none
  · obtain rfl : u = u' := Option.some.inj (hu.symm.trans hu')
    rw [ht, hu, Option.bind_some, Option.bind_some, same.kind, same.lexeme]
    simp only [introducer?_eq_none_of_renamed (h.take i) inj]
    split <;> rfl

end Tables

/-! ## The whole analysis -/

/-- The scope of a variable is a program that is named in front of it. -/
def Symbol.InProgram (tokens : List Token) (x : Symbol) : Prop :=
  ∃ i t, Introduces tokens i t ∧ t.lexeme = x.lexeme ∧
    ∃ p ∈ tokens.take i, p.kind = .generalId ∧ p.lexeme = x.scope

/-- No program is named in front of a variable, and its scope is the default one. -/
def Symbol.InDefault (settings : Settings) (tokens : List Token) (x : Symbol) : Prop :=
  ∃ i t, Introduces tokens i t ∧ t.lexeme = x.lexeme ∧
    (∀ p ∈ tokens.take i, p.kind ≠ .generalId) ∧ x.scope = settings.defaultScope

/-- `y` is the symbol that `x` is renamed to: its name is renamed, and so is its scope if it is the
name of a program. -/
structure Symbol.RenamesTo (settings : Settings) (r : String → String) (tokens : List Token)
    (x y : Symbol) : Prop where
  kind : y.kind = x.kind
  lexeme : y.lexeme = r x.lexeme
  value : y.value = x.value
  address : y.address = x.address
  scope : (x.InProgram tokens ∧ y.scope = r x.scope) ∨
    (x.InDefault settings tokens ∧ y.scope = x.scope)

/-- `d` is the entry that `e` is renamed to, and has the line of the token that introduces the name
in the renamed stream. -/
def AddressEntry.RenamesTo (r : String → String) (tokens others : List Token)
    (e d : AddressEntry) : Prop :=
  ∃ i t u, Introduces tokens i t ∧ t.lexeme = e.lexeme ∧ others[i]? = some u ∧
    d = { e with lexeme := r e.lexeme, line := u.line }

/-- `b` is the result `a` with its names renamed; its tokens are those of the renamed stream, with
the addresses that they have in `a`. -/
structure Analysis.RenamesTo (settings : Settings) (r : String → String)
    (tokens others : List Token) (a b : Analysis) : Prop where
  tally : b.tally = a.tally
  symbols : List.Forall₂ (Symbol.RenamesTo settings r tokens) a.symbols.symbols b.symbols.symbols
  addresses : b.symbols.addresses = a.symbols.addresses.map (Prod.map r id)
  programs : List.Forall₂ (AddressEntry.RenamesTo r tokens others) a.programs.entries
    b.programs.entries
  tokens : b.tokens = List.zipWith (fun u t => { u with resolved := t.resolved }) others a.tokens

/-- Two faults of one position that say the same, each of its own stream; or both streams have no
body. -/
def SameFault (s s' : Settings) (r : String → String) (tokens others : List Token)
    (f g : Fault) : Prop :=
  (f = .missingBody ∧ g = .missingBody) ∨
    ∃ i t u, tokens[i]? = some t ∧ others[i]? = some u ∧
      RaisedAt s tokens i f ∧ RaisedAt s' others i g ∧
      f.place? = some t.place ∧ g.place? = some u.place ∧ g = f.renamed r u.place

theorem symbol_renamesTo (r : String → String) {s : Settings} {tokens : List Token} {m i : Nat}
    {x : Symbol} (quiet : faultAt? s tokens m i = none) (lt : i < m)
    (hx : symbolAt? s tokens i = some x) :
    x.RenamesTo s r tokens (x.renamed r (tokens.take i)) := by
  obtain ⟨t, introduces, lexeme, -⟩ := introduces_of_symbolAt? quiet lt hx
  have scope : x.scope = scopeAfter s (tokens.take i) := by
    unfold symbolAt? at hx
    obtain ⟨t, -, hx⟩ := Option.bind_eq_some_iff.1 hx
    obtain ⟨type, -, rfl⟩ := Option.map_eq_some_iff.1 hx
    rfl
  refine ⟨rfl, rfl, rfl, rfl, ?_⟩
  unfold scopeAfter at scope
  cases last : (tokens.take i).reverse.find? (·.kind = .generalId) with
  | some p =>
    rw [last] at scope
    have mem : p ∈ tokens.take i := List.mem_reverse.1 (List.mem_of_find?_eq_some last)
    have kind : p.kind = .generalId := by simpa using List.find?_some last
    have any : (tokens.take i).any (·.kind = .generalId) = true :=
      List.any_eq_true.2 ⟨p, mem, by simpa using kind⟩
    refine .inl ⟨⟨i, t, introduces, lexeme, p, mem, kind, scope.symm⟩, ?_⟩
    exact if_pos any
  | none =>
    rw [last] at scope
    have none : ∀ p ∈ tokens.take i, p.kind ≠ .generalId := by
      intro p mem
      simpa using List.find?_eq_none.1 last p (List.mem_reverse.2 mem)
    refine .inr ⟨⟨i, t, introduces, lexeme, none, scope⟩, ?_⟩
    refine if_neg ?_
    rw [List.any_eq_true]
    rintro ⟨p, mem, kind⟩
    exact none p mem (by simpa using kind)

section Whole

variable {r : String → String} {s s' : Settings} {tokens others : List Token}
  (inj : Function.Injective r) (hs : s.RenamesTo r s') (h : Renamed r tokens others)

include inj hs h

theorem faultAt?_eq_none_of_renamed {m i : Nat} :
    faultAt? s' others m i = none ↔ faultAt? s tokens m i = none := by
  rcases cases_of_rel (rel_getElem? h i) with ⟨ht, hu⟩ | ⟨t, u, ht, hu, -⟩
  · rw [faultAt?_of_length_le (List.getElem?_eq_none_iff.1 ht),
      faultAt?_of_length_le (List.getElem?_eq_none_iff.1 hu)]
  · rw [faultAt?_of_renamed inj hs h ht hu, Option.map_eq_none_iff]

/-- The result for a renamed stream without a fault is the result for the stream, renamed. -/
theorem analysisOf_renamesTo {m : Nat} (recast : List.Forall₂ (Token.RecastAs r) tokens others)
    (quiet : ∀ i, faultAt? s tokens m i = none) :
    (analysisOf s tokens m).RenamesTo s r tokens others (analysisOf s' others m) := by
  have quiet' : ∀ i, faultAt? s' others m i = none := fun i =>
    (faultAt?_eq_none_of_renamed inj hs h).2 (quiet i)
  constructor
  case tally =>
    show bodyTally others m others.length = bodyTally tokens m tokens.length
    rw [bodyTally_of_renamed h, h.length_eq]
  case symbols =>
    show List.Forall₂ _ (tableAt s tokens m).symbols (tableAt s' others m).symbols
    rw [symbols_of_quiet quiet, symbols_of_quiet quiet']
    refine forall₂_filterMap_range fun i lt => ?_
    rw [symbolAt?_of_renamed inj hs h]
    cases hx : symbolAt? s tokens i with
    | none => exact .none
    | some x => exact .some (symbol_renamesTo r (quiet i) lt hx)
  case addresses => exact addresses_tableAt_of_renamed inj hs h m
  case programs =>
    refine forall₂_filterMap_range fun i lt => ?_
    rcases cases_of_rel (rel_getElem? h i) with ⟨ht, hu⟩ | ⟨t, u, ht, hu, -⟩
    · rw [programAt?, programAt?, ht, hu]
      exact .none
    · rw [programAt?_of_renamed inj h hu]
      cases he : programAt? tokens i with
      | none => exact .none
      | some e =>
        obtain ⟨p, introduces, lexeme, -⟩ := introduces_of_programAt? he
        exact .some ⟨i, p, u, introduces, lexeme, hu, rfl⟩
  case tokens =>
    show others.map _ = List.zipWith _ others (tokens.map _)
    rw [List.zipWith_map_right]
    apply map_eq_zipWith_of_forall₂ recast
    intro t u same
    exact annotate_of_renamed inj hs h m same.toRenamesTo same.resolved

end Whole

/-- An analysis depends on names only through their equality, and not on lines, positions and spans
at all. Let a stream be renamed, and the words for types with it. Then the analyses of both streams
succeed or fail together. On success the results differ in names and in the lines of program names
only; on failure the faults are of one position and differ in the names they show. -/
theorem analyze_of_renaming {r : String → String} {s s' : Settings} {tokens others : List Token}
    (inj : Function.Injective r) (hs : s.RenamesTo r s')
    (recast : List.Forall₂ (Token.RecastAs r) tokens others) :
    ((∃ a, (analyze s tokens).outcome = .ok a) ↔ ∃ b, (analyze s' others).outcome = .ok b) ∧
      (∀ a b, (analyze s tokens).outcome = .ok a → (analyze s' others).outcome = .ok b →
        a.RenamesTo s r tokens others b) ∧
      ∀ f g, (analyze s tokens).outcome = .error f → (analyze s' others).outcome = .error g →
        SameFault s s' r tokens others f g := by
  have h : Renamed r tokens others := recast.imp fun _ _ same => same.toRenamesTo
  have begins : others.findIdx? Token.isBegin = tokens.findIdx? Token.isBegin :=
    findIdx?_of_renamed h (· = .beginKw)
  refine ⟨?_, ?_, ?_⟩
  · simp only [outcome_analyze_eq_ok_iff, begins, faultAt?_eq_none_of_renamed inj hs h]
    constructor
    · rintro ⟨a, m, hm, quiet, -⟩
      exact ⟨_, m, hm, quiet, rfl⟩
    · rintro ⟨b, m, hm, quiet, -⟩
      exact ⟨_, m, hm, quiet, rfl⟩
  · intro a b ha hb
    obtain ⟨m, hm, quiet, rfl⟩ := outcome_analyze_eq_ok_iff.1 ha
    obtain ⟨m', hm', -, rfl⟩ := outcome_analyze_eq_ok_iff.1 hb
    obtain rfl : m = m' := Option.some.inj (hm.symm.trans (begins.symm.trans hm'))
    exact analysisOf_renamesTo inj hs h recast quiet
  · intro f g hf hg
    rcases outcome_analyze_eq_error_iff.1 hf with ⟨none, rfl⟩ | ⟨m, i, hm, here, before⟩
    · have missing : (analyze s' others).outcome = .error .missingBody :=
        outcome_analyze_eq_error_iff.2 (.inl ⟨begins.trans none, rfl⟩)
      exact .inl ⟨rfl, Except.error.inj (hg.symm.trans missing)⟩
    · obtain ⟨t, ht, -, place⟩ := exists_place_of_faultAt? here
      rcases cases_of_rel (rel_getElem? h i) with ⟨ht', -⟩ | ⟨t', u, -, hu, -⟩
      · rw [ht'] at ht
        cases ht
      · have there : faultAt? s' others m i = some (f.renamed r u.place) := by
          rw [faultAt?_of_renamed inj hs h ht hu, here, Option.map_some]
        have before' : ∀ j < i, faultAt? s' others m j = none := fun j lt =>
          (faultAt?_eq_none_of_renamed inj hs h).2 (before j lt)
        have found : (analyze s' others).outcome = .error (f.renamed r u.place) :=
          outcome_analyze_eq_error_iff.2 (.inr ⟨m, i, begins.trans hm, there, before'⟩)
        obtain rfl : g = f.renamed r u.place := Except.error.inj (hg.symm.trans found)
        obtain ⟨u', hu', -, place'⟩ := exists_place_of_faultAt? there
        obtain rfl : u' = u := Option.some.inj (hu'.symm.trans hu)
        exact .inr ⟨i, t, u', ht, hu, ⟨m, hm, here, before⟩, ⟨m, begins.trans hm, there, before'⟩,
          place, place', rfl⟩

/-- Exchanges `n` and `total`, and each English word for a type with the Spanish one. -/
def translation : Equiv.Perm String :=
  ((Equiv.swap "n" "total").trans (Equiv.swap "int" "entero")).trans
    ((Equiv.swap "string" "cadena").trans (Equiv.swap "boolean" "logico"))

/-- A program translated, a hundred lines further down. -/
def translated (tokens : List Token) : List Token :=
  tokens.map fun t => { t with lexeme := translation t.lexeme, line := t.line + 100 }

/-- Announces an integer by the word for strings. -/
def mistypedProgram : List Token :=
  [.plain .intId "n" 1, .plain .stringKw "string" 1, .plain .semicolon ";" 1,
    .plain .beginKw "begin" 2]

/-- A translation keeps the scope that no program gave, and translates the scope that a program
gave; what was refused is refused in the other words. -/
theorem renamesTo_of_translated :
    (∃ a b, (analyze {} renamedProgram).outcome = .ok a ∧
      (analyze { dialect := .spanish } (translated renamedProgram)).outcome = .ok b ∧
      a.RenamesTo {} translation renamedProgram (translated renamedProgram) b ∧
      b.symbols.symbols =
        [⟨.intId, "total", "0", "Main", 0⟩, ⟨.realId, "r", "0.0", "demo", 3⟩,
          ⟨.stringId, "s", "null", "total", 4⟩]) ∧
      ∃ f g, (analyze {} mistypedProgram).outcome = .error f ∧
        (analyze { dialect := .spanish } (translated mistypedProgram)).outcome = .error g ∧
        SameFault {} { dialect := .spanish } translation mistypedProgram
          (translated mistypedProgram) f g ∧
        g = .typeMismatch ⟨"total", 101, .nowhere⟩ "entero" "cadena" := by
  have words : Settings.RenamesTo translation {} { dialect := .spanish } :=
    ⟨fun type => by cases type <;> decide, rfl, rfl⟩
  have recast (tokens : List Token) :
      List.Forall₂ (Token.RecastAs translation) tokens (translated tokens) :=
    List.forall₂_map_right_iff.2 (List.forall₂_same.2 fun _ _ => ⟨⟨rfl, rfl⟩, rfl⟩)
  constructor
  · obtain ⟨a, ha⟩ : ∃ a, (analyze {} renamedProgram).outcome = .ok a := ⟨_, rfl⟩
    obtain ⟨b, hb⟩ : ∃ b, (analyze { dialect := .spanish }
        (translated renamedProgram)).outcome = .ok b := ⟨_, rfl⟩
    refine ⟨a, b, ha, hb, ?_, ?_⟩
    · exact (analyze_of_renaming translation.injective words (recast _)).2.1 a b ha hb
    · cases hb
      rfl
  · exact ⟨_, _, rfl, rfl,
      (analyze_of_renaming translation.injective words (recast _)).2.2 _ _ rfl rfl, rfl⟩

end Pseudocode
