/-
  Pseudocode.Proofs.Check.Exchange — variable declarations in another order.

  Two groups of variable declarations that follow each other, each up to a semicolon, are exchanged.
  What the analysis says does not change, but for the addresses of their variables.

  The checks of a declaration look ahead to the next semicolon, which is its own, and back to the
  names in front of it. A name that both groups declare is a fault in either order, and without one
  the names are introduced by the same tokens. Without a program name the groups leave the scope as
  it is. The body looks ahead only, but for one token: its first identifier may stand two tokens
  behind the last one of the declarations, which is that of the rest, or a semicolon.

  A program name behind the groups may repeat one of their names. It opens a scope and declares
  nothing, so the name keeps the address that it was given in its group.

  Proved:
  (1) The exchanged declarations pass their checks if and only if the others do
      (`Exchangeable.passes`), and then introduce the same names (`introducer?_exchange`).
  (2) The body is judged and counted alike (`SameBody.faultAt?_eq`, `SameBody.tally_eq`).
  (3) The two results differ in the order of the symbols and in the addresses of the exchanged
      variables, and these have the same addresses together (`exchange_of_declarations`).
-/

import Pseudocode.Proofs.Check.Pieces

namespace Pseudocode

/-- Two groups of variable declarations between other declarations, in front of a body. -/
structure Exchangeable (p s₁ s₂ r body : List Token) : Prop where
  start : p = [] ∨ Ends p
  first : Ends s₁
  second : Ends s₂
  noProgram : ∀ t ∈ s₁, t.kind ≠ .generalId
  noProgram' : ∀ t ∈ s₂, t.kind ≠ .generalId
  declarations : ∀ t ∈ p ++ (s₁ ++ (s₂ ++ r)), t.isBegin = false
  body : ∃ t rest, body = t :: rest ∧ t.isBegin = true

section Exchange

variable {settings : Settings} {p s₁ s₂ r body : List Token}

theorem Exchangeable.symm (h : Exchangeable p s₁ s₂ r body) : Exchangeable p s₂ s₁ r body where
  start := h.start
  first := h.second
  second := h.first
  noProgram := h.noProgram'
  noProgram' := h.noProgram
  declarations := by
    intro t mem
    apply h.declarations
    simp only [List.mem_append] at mem ⊢
    tauto
  body := h.body

theorem exchange_perm {α : Type} (p s₁ s₂ r : List α) :
    (p ++ (s₁ ++ (s₂ ++ r))).Perm (p ++ (s₂ ++ (s₁ ++ r))) := by
  rw [← List.append_assoc s₁, ← List.append_assoc s₂]
  exact (List.perm_append_comm.append_right r).append_left p

/-! ## The names -/

/-- No name is carried by a token of both groups. -/
theorem names_apart (noProgram : ∀ t ∈ s₂, t.kind ≠ .generalId)
    (fresh : NoneRepeats (p ++ (s₁ ++ (s₂ ++ r)))) {t u : Token} {name : String} (ht : t ∈ s₁)
    (hu : u ∈ s₂) (named : t.names name = true) (named' : u.names name = true) : False := by
  simp only [NoneRepeats, List.pairwise_append, List.mem_append] at fresh
  obtain ⟨-, ⟨-, -, from₁⟩, -⟩ := fresh
  simp only [Token.names, Bool.and_eq_true, decide_eq_true_eq] at named'
  have typed : u.kind.valueType?.isSome = true :=
    (Kind.isIdentifier_iff.1 named'.1).resolve_right (noProgram u hu)
  have clash := from₁ t ht u (.inl hu) typed
  rw [named'.2, named] at clash
  cases clash

/-- Variables of one name stand in each other's way in either order. -/
theorem noneRepeats_exchange (noProgram : ∀ t ∈ s₂, t.kind ≠ .generalId)
    (fresh : NoneRepeats (p ++ (s₁ ++ (s₂ ++ r)))) : NoneRepeats (p ++ (s₂ ++ (s₁ ++ r))) := by
  have apart {t u : Token} {name : String} (ht : t ∈ s₁) (hu : u ∈ s₂)
      (named : t.names name = true) (named' : u.names name = true) : False :=
    names_apart noProgram fresh ht hu named named'
  simp only [NoneRepeats, List.pairwise_append, List.mem_append] at fresh ⊢
  obtain ⟨inP, ⟨in₁, ⟨in₂, inR, from₂⟩, from₁⟩, fromP⟩ := fresh
  refine ⟨inP, ⟨in₂, ⟨in₁, inR, fun t ht u hu => from₁ t ht u (.inr hu)⟩, ?_⟩, ?_⟩
  · intro t ht u hu typed
    rcases hu with hu | hu
    · cases named : t.names u.lexeme with
      | false => rfl
      | true =>
        have hid : u.isIdentifier = true := Kind.isIdentifier_iff.2 (.inl typed)
        exact (apart hu ht (by simp [Token.names, hid]) named).elim
    · exact from₂ t ht u hu typed
  · intro t ht u hu
    apply fromP t ht u
    tauto

/-- Names are introduced by the same tokens in either order. -/
theorem introducer?_exchange (noProgram : ∀ t ∈ s₂, t.kind ≠ .generalId)
    (fresh : NoneRepeats (p ++ (s₁ ++ (s₂ ++ r)))) (name : String) :
    introducer? (p ++ (s₁ ++ (s₂ ++ r))) name = introducer? (p ++ (s₂ ++ (s₁ ++ r))) name := by
  have either : (introducer? s₁ name).or (introducer? s₂ name) =
      (introducer? s₂ name).or (introducer? s₁ name) := by
    cases h₁ : introducer? s₁ name with
    | none => cases introducer? s₂ name <;> rfl
    | some t =>
      cases h₂ : introducer? s₂ name with
      | none => rfl
      | some u =>
        obtain ⟨ht, named⟩ := names_of_introducer? h₁
        obtain ⟨hu, named'⟩ := names_of_introducer? h₂
        exact (names_apart noProgram fresh ht hu named named').elim
  have cut (x y : List Token) : introducer? (p ++ (x ++ (y ++ r))) name =
      (introducer? p name).or
        (((introducer? x name).or (introducer? y name)).or (introducer? r name)) := by
    simp only [introducer?, List.find?_append, Option.or_assoc]
  rw [cut, cut, either]

/-! ## The checks of the declarations -/

/-- The declarations pass their checks in either order. -/
theorem Exchangeable.passes (h : Exchangeable p s₁ s₂ r body) :
    (NoneRepeats (p ++ (s₁ ++ (s₂ ++ r))) ∧ Announced settings (p ++ (s₁ ++ (s₂ ++ r)))) →
      NoneRepeats (p ++ (s₂ ++ (s₁ ++ r))) ∧ Announced settings (p ++ (s₂ ++ (s₁ ++ r))) := by
  rintro ⟨fresh, announced⟩
  refine ⟨noneRepeats_exchange h.noProgram' fresh, ?_⟩
  rw [announced_append h.start, announced_append (.inr h.first),
    announced_append (.inr h.second)] at announced
  rw [announced_append h.start, announced_append (.inr h.second), announced_append (.inr h.first)]
  tauto

end Exchange

/-! ## The body -/

/-- Streams with the same body, and with the same keyword two tokens in front of its second
token. -/
structure SameBody (tokens others : List Token) (m : Nat) : Prop where
  begins : ∀ t, tokens[m]? = some t → t.isIdentifier = false
  body : tokens.drop m = others.drop m
  behind : keywordBefore? tokens (m + 1) = keywordBefore? others (m + 1)

namespace SameBody

variable {settings : Settings} {tokens others : List Token} {m i : Nat} {t : Token}
  (h : SameBody tokens others m)

include h

theorem drop_eq (le : m ≤ i) : tokens.drop i = others.drop i := by
  obtain ⟨j, rfl⟩ := Nat.exists_eq_add_of_le le
  rw [← List.drop_drop, ← List.drop_drop, h.body]

theorem getElem?_eq (le : m ≤ i) : tokens[i]? = others[i]? := by
  have := congrArg (·[0]?) (h.drop_eq le)
  simpa using this

theorem keywordBefore?_eq (lt : m < i) : keywordBefore? tokens i = keywordBefore? others i := by
  by_cases first : i = m + 1
  · rw [first, h.behind]
  · unfold keywordBefore?
    rw [h.getElem?_eq (by omega : m ≤ i - 2)]

theorem checkAssignment_eq (le : m ≤ i) (target : Option ValueType) :
    checkAssignment .statement tokens i t target =
      checkAssignment .statement others i t target := by
  simp only [checkAssignment, h.drop_eq (by omega : m ≤ i + 2)]

theorem checkCondition_eq (construct : Construct) (le : m ≤ i) :
    checkCondition construct tokens i t = checkCondition construct others i t := by
  have ends : conditionEnd? construct tokens i = conditionEnd? construct others i := by
    unfold conditionEnd?
    rw [h.drop_eq (by omega : m ≤ i + construct.closingDistance)]
  have spans (last : Nat) : tokensFrom tokens i last = tokensFrom others i last := by
    unfold tokensFrom
    rw [h.drop_eq le]
  unfold checkCondition
  simp only [ends, spans]

/-- The body is judged alike when the declarations introduce the same names. -/
theorem faultAt?_eq (scan : settings.scan = .statement)
    (introduced : ∀ name, introducer? (tokens.take m) name = introducer? (others.take m) name)
    (le : m ≤ i) : faultAt? settings tokens m i = faultAt? settings others m i := by
  cases ht : tokens[i]? with
  | none => simp [faultAt?, ht, ← h.getElem?_eq le]
  | some t =>
    have ht' : others[i]? = some t := by rw [← h.getElem?_eq le, ht]
    cases hid : t.isIdentifier with
    | false => rw [faultAt?_of_not_identifier ht hid, faultAt?_of_not_identifier ht' hid]
    | true =>
      have lt : m < i := by
        rcases Nat.eq_or_lt_of_le le with rfl | lt
        · rw [h.begins t ht] at hid
          cases hid
        · exact lt
      rw [faultAt?_of_reference ht le hid, faultAt?_of_reference ht' le hid]
      simp only [referenceFault?, assignmentFault?, conditionFault?, scan, introduced,
        h.getElem?_eq (by omega : m ≤ i + 1), h.checkAssignment_eq le, h.checkCondition_eq _ le,
        h.keywordBefore?_eq lt]

theorem isReferenceAt_eq : isReferenceAt tokens m i = isReferenceAt others m i := by
  unfold isReferenceAt
  by_cases le : m ≤ i
  · rw [h.getElem?_eq le]
  · simp [le]

theorem startsAssignmentAt_eq : startsAssignmentAt tokens m i = startsAssignmentAt others m i := by
  unfold startsAssignmentAt
  rw [h.isReferenceAt_eq]
  by_cases le : m ≤ i
  · rw [h.getElem?_eq (by omega : m ≤ i + 1)]
  · simp [isReferenceAt, le]

theorem startsConditionAt_eq : startsConditionAt tokens m i = startsConditionAt others m i := by
  unfold startsConditionAt
  rw [Bool.and_assoc, Bool.and_assoc, ← isSome_keywordBefore?, ← isSome_keywordBefore?,
    ← h.isReferenceAt_eq]
  by_cases lt : m < i
  · rw [h.keywordBefore?_eq lt]
  · have : isReferenceAt tokens m i = false := by
      unfold isReferenceAt
      cases ht : tokens[i]? with
      | none => simp
      | some t =>
        by_cases le : m ≤ i
        · obtain rfl : m = i := by omega
          simp [h.begins t ht]
        · simp [le]
    rw [this, Bool.false_and, Bool.false_and]

/-- The body is counted alike. -/
theorem tally_eq (perm : (tokens.take m).Perm (others.take m)) :
    bodyTally tokens m tokens.length = bodyTally others m others.length := by
  have length : tokens.length = others.length := by
    rw [← List.take_append_drop m tokens, ← List.take_append_drop m others, List.length_append,
      List.length_append, perm.length_eq, h.body]
  have references : isReferenceAt tokens m = isReferenceAt others m :=
    funext fun _ => h.isReferenceAt_eq
  have assignments : startsAssignmentAt tokens m = startsAssignmentAt others m :=
    funext fun _ => h.startsAssignmentAt_eq
  have conditions : startsConditionAt tokens m = startsConditionAt others m :=
    funext fun _ => h.startsConditionAt_eq
  rw [bodyTally, bodyTally, length, perm.countP_eq, references, assignments, conditions]

end SameBody

section Behind

variable {settings : Settings} {p s₁ s₂ r body : List Token}

theorem keywordBefore?_behind (front body : List Token) (t : Token) :
    keywordBefore? (front ++ [t] ++ body) ((front ++ [t]).length + 1) =
      Construct.ofKeyword? t.kind := by
  simp [keywordBefore?]

theorem ofKeyword?_of_isSemicolon {t : Token} (h : t.isSemicolon = true) :
    Construct.ofKeyword? t.kind = none := by
  have : t.kind = .semicolon := by simpa [Token.isSemicolon] using h
  rw [this]
  rfl

/-- The last token of the declarations is that of the rest, or a semicolon. -/
theorem Exchangeable.behind (h : Exchangeable p s₁ s₂ r body) :
    keywordBefore? (p ++ (s₁ ++ (s₂ ++ r)) ++ body) ((p ++ (s₁ ++ (s₂ ++ r))).length + 1) =
      (r.getLast?.bind fun t => Construct.ofKeyword? t.kind) := by
  rcases List.eq_nil_or_concat r with rfl | ⟨front, t, rfl⟩
  · obtain ⟨front, t, rfl, semicolon⟩ := h.second
    have cut : p ++ (s₁ ++ (front ++ [t] ++ [])) = p ++ (s₁ ++ front) ++ [t] := by simp
    rw [cut, keywordBefore?_behind, ofKeyword?_of_isSemicolon semicolon]
    rfl
  · have cut : p ++ (s₁ ++ (s₂ ++ front.concat t)) = p ++ (s₁ ++ (s₂ ++ front)) ++ [t] := by simp
    rw [cut, keywordBefore?_behind]
    simp

theorem Exchangeable.sameBody (h : Exchangeable p s₁ s₂ r body) :
    SameBody (p ++ (s₁ ++ (s₂ ++ r)) ++ body) (p ++ (s₂ ++ (s₁ ++ r)) ++ body)
      (p ++ (s₁ ++ (s₂ ++ r))).length := by
  have length := (exchange_perm p s₁ s₂ r).length_eq
  refine ⟨?_, ?_, ?_⟩
  · intro t ht
    obtain ⟨first, rest, rfl, begins⟩ := h.body
    rw [List.getElem?_append_right (by omega), Nat.sub_self] at ht
    obtain rfl : first = t := Option.some.inj ht
    have kind : first.kind = .beginKw := by simpa [Token.isBegin] using begins
    rw [Token.isIdentifier, kind]
    rfl
  · rw [List.drop_left, length, List.drop_left]
  · rw [h.behind, length, h.symm.behind]

/-! ## The scopes -/

/-- The scope behind tokens is the one to fall back on for those that follow. -/
theorem scopeAfter_append (settings : Settings) (x y : List Token) :
    scopeAfter settings (x ++ y) =
      scopeAfter { settings with defaultScope := scopeAfter settings x } y := by
  unfold scopeAfter
  rw [List.reverse_append, List.find?_append]
  cases y.reverse.find? (·.kind = .generalId) <;> rfl

theorem scopeAfter_of_noProgram (settings : Settings) {x : List Token}
    (h : ∀ t ∈ x, t.kind ≠ .generalId) : scopeAfter settings x = settings.defaultScope := by
  have none : x.reverse.find? (·.kind = .generalId) = none := by
    rw [List.find?_eq_none]
    intro t mem
    simpa using h t (List.mem_reverse.1 mem)
  rw [scopeAfter, none]
  rfl

/-- The symbol of a token without its address depends on the scope only. -/
theorem unnumbered_symbolBehind {before before' : List Token}
    (h : scopeAfter settings before = scopeAfter settings before') (front : List Token)
    (t : Token) :
    (symbolBehind settings (before ++ front) t).map Symbol.unnumbered =
      (symbolBehind settings (before' ++ front) t).map Symbol.unnumbered := by
  simp only [symbolBehind_eq, Option.map_map, Function.comp_def, Symbol.unnumbered,
    scopeAfter_append, h]

/-! ## The tables -/

/-- A symbol list without addresses, of two groups in either order. -/
theorem symbols_exchange (noProgram : ∀ t ∈ s₁, t.kind ≠ .generalId)
    (noProgram' : ∀ t ∈ s₂, t.kind ≠ .generalId) :
    ((along (symbolBehind settings) [] (p ++ (s₁ ++ (s₂ ++ r)))).map Symbol.unnumbered).Perm
      ((along (symbolBehind settings) [] (p ++ (s₂ ++ (s₁ ++ r)))).map Symbol.unnumbered) := by
  have scope {x : List Token} (before : List Token) (h : ∀ t ∈ x, t.kind ≠ .generalId) :
      scopeAfter settings (before ++ x) = scopeAfter settings before := by
    rw [scopeAfter_append, scopeAfter_of_noProgram _ h]
  have moved {before before' : List Token}
      (h : scopeAfter settings before = scopeAfter settings before') (piece : List Token) :
      (along (symbolBehind settings) before piece).map Symbol.unnumbered =
        (along (symbolBehind settings) before' piece).map Symbol.unnumbered := by
    rw [map_along, map_along]
    exact along_congr fun front t _ _ => unnumbered_symbolBehind h front t
  simp only [along_append, List.map_append, List.nil_append]
  rw [moved (scope p noProgram) s₂, moved (scope p noProgram') s₁,
    moved ((scope _ noProgram').trans (scope p noProgram)) r,
    moved ((scope _ noProgram).trans (scope p noProgram')) r]
  exact exchange_perm _ _ _ _

/-- The program names are the same, since the groups hold none. -/
theorem programs_exchange (noProgram : ∀ t ∈ s₁, t.kind ≠ .generalId)
    (noProgram' : ∀ t ∈ s₂, t.kind ≠ .generalId) :
    along programBehind [] (p ++ (s₁ ++ (s₂ ++ r))) =
      along programBehind [] (p ++ (s₂ ++ (s₁ ++ r))) := by
  have none {x : List Token} (h : ∀ t ∈ x, t.kind ≠ .generalId) (before : List Token) :
      along programBehind before x = [] := by
    induction x generalizing before with
    | nil => rfl
    | cons t x ih =>
      rw [along, ih (fun u mem => h u (List.mem_cons_of_mem _ mem)), programBehind_eq]
      simp [h t List.mem_cons_self]
  have rest : along programBehind (p ++ s₁ ++ s₂) r = along programBehind (p ++ s₂ ++ s₁) r := by
    apply along_congr
    intro front t _ _
    have perm : (p ++ s₁ ++ s₂ ++ front).Perm (p ++ s₂ ++ s₁ ++ front) := by
      simpa using exchange_perm p s₁ s₂ front
    simp only [programBehind_eq, introducer?_eq_none_iff, perm.mem_iff]
  simp only [along_append, List.nil_append]
  rw [none noProgram, none noProgram, none noProgram', none noProgram', rest]

/-! ## The addresses -/

theorem distinctNames_of_perm {x y : List Token} (perm : x.Perm y) :
    distinctNames x = distinctNames y := by
  have names : (identifierNames x).Perm (identifierNames y) := (perm.filter _).map _
  rw [distinctNames, distinctNames, List.toFinset_eq_of_perm _ _ names]

/-- A name that is introduced outside of the two groups keeps its address. -/
theorem addressOf?_exchange {i : Nat} {t : Token}
    (introduced : Introduces (p ++ (s₁ ++ (s₂ ++ r))) i t)
    (outside : i < p.length ∨ (p ++ (s₁ ++ s₂)).length ≤ i) :
    (tableAt settings (p ++ (s₁ ++ (s₂ ++ r))) (p ++ (s₁ ++ (s₂ ++ r))).length).addressOf?
        t.lexeme =
      (tableAt settings (p ++ (s₂ ++ (s₁ ++ r))) (p ++ (s₂ ++ (s₁ ++ r))).length).addressOf?
        t.lexeme := by
  obtain ⟨here', perm⟩ : (p ++ (s₂ ++ (s₁ ++ r)))[i]? = some t ∧
      ((p ++ (s₁ ++ (s₂ ++ r))).take i).Perm ((p ++ (s₂ ++ (s₁ ++ r))).take i) := by
    have here := introduced.here
    rcases outside with inP | inR
    · rw [List.getElem?_append_left inP] at here ⊢
      rw [List.take_append_of_le_length (by omega), List.take_append_of_le_length (by omega)]
      exact ⟨here, .refl _⟩
    · obtain ⟨j, rfl⟩ := Nat.exists_eq_add_of_le inR
      have cut (x y : List Token) : p ++ (x ++ (y ++ r)) = p ++ (x ++ y) ++ r := by simp
      have groups : (p ++ (s₁ ++ s₂)).Perm (p ++ (s₂ ++ s₁)) := List.perm_append_comm.append_left p
      rw [cut, List.getElem?_append_right (by omega), Nat.add_sub_cancel_left] at here
      rw [cut, cut, List.take_length_add_append, groups.length_eq, List.take_length_add_append,
        List.getElem?_append_right (by omega), Nat.add_sub_cancel_left]
      exact ⟨here, groups.append_right _⟩
  have introduced' : Introduces (p ++ (s₂ ++ (s₁ ++ r))) i t := by
    refine ⟨here', introduced.isIdentifier, introducer?_eq_none_iff.2 ?_⟩
    intro u mem
    exact introducer?_eq_none_iff.1 introduced.new u (perm.mem_iff.2 mem)
  rw [addressOf?_of_introduces settings introduced (List.getElem?_eq_some_iff.1 introduced.here).1,
    addressOf?_of_introduces settings introduced' (List.getElem?_eq_some_iff.1 here').1,
    distinctNames_of_perm perm]

/-- The names of the two groups have the same addresses together. -/
theorem addresses_exchange (noProgram : ∀ t ∈ s₁, t.kind ≠ .generalId)
    (noProgram' : ∀ t ∈ s₂, t.kind ≠ .generalId)
    (fresh : NoneRepeats (p ++ (s₁ ++ (s₂ ++ r)))) :
    ((identifierNames (s₁ ++ s₂)).map
        (tableAt settings (p ++ (s₁ ++ (s₂ ++ r)))
          (p ++ (s₁ ++ (s₂ ++ r))).length).addressOf?).Perm
      ((identifierNames (s₁ ++ s₂)).map
        (tableAt settings (p ++ (s₂ ++ (s₁ ++ r)))
          (p ++ (s₂ ++ (s₁ ++ r))).length).addressOf?) := by
  have fresh' := noneRepeats_exchange noProgram' fresh
  have both (t : Token) (mem : t ∈ s₁ ++ s₂) : t.kind ≠ .generalId := by
    rcases List.mem_append.1 mem with mem | mem
    · exact noProgram t mem
    · exact noProgram' t mem
  -- in the first order the two groups are one piece
  obtain ⟨-, together⟩ := addresses_of_piece settings p (s₁ ++ s₂) r (by simpa using fresh) both
  -- in the second order the second group comes first, and the first behind it
  obtain ⟨count, front⟩ := addresses_of_piece settings p s₂ (s₁ ++ r) fresh' noProgram'
  obtain ⟨-, back⟩ := addresses_of_piece settings (p ++ s₂) s₁ r (by simpa using fresh') noProgram
  simp only [List.append_assoc] at together back
  rw [together, identifierNames_append, List.map_append, front, back, count, List.length_append,
    ← List.map_append, Nat.add_comm (identifierNames s₁).length, ← List.range'_append_1]
  exact List.perm_append_comm.map _

end Behind

/-! ## The analysis -/

section Analysis

variable {settings : Settings} {p s₁ s₂ r body : List Token}

/-- The body begins behind the declarations. -/
theorem Exchangeable.findIdx?_isBegin (h : Exchangeable p s₁ s₂ r body) :
    (p ++ (s₁ ++ (s₂ ++ r)) ++ body).findIdx? Token.isBegin =
      some (p ++ (s₁ ++ (s₂ ++ r))).length := by
  obtain ⟨t, rest, rfl, begins⟩ := h.body
  have none : (p ++ (s₁ ++ (s₂ ++ r))).findIdx? Token.isBegin = none :=
    List.findIdx?_eq_none_iff.2 h.declarations
  rw [List.findIdx?_append, none, List.findIdx?_cons, begins]
  simp

/-- A stream without a fault has none when the groups are exchanged. -/
theorem Exchangeable.quiet_exchange (h : Exchangeable p s₁ s₂ r body)
    (scan : settings.scan = .statement)
    (quiet : ∀ i, faultAt? settings (p ++ (s₁ ++ (s₂ ++ r)) ++ body)
      (p ++ (s₁ ++ (s₂ ++ r))).length i = none) :
    ∀ i, faultAt? settings (p ++ (s₂ ++ (s₁ ++ r)) ++ body)
      (p ++ (s₂ ++ (s₁ ++ r))).length i = none := by
  have checks := passed_of_quiet quiet
  have length := (exchange_perm p s₁ s₂ r).length_eq
  intro i
  by_cases lt : i < (p ++ (s₂ ++ (s₁ ++ r))).length
  · have le : (p ++ (s₂ ++ (s₁ ++ r))).length ≤ (p ++ (s₂ ++ (s₁ ++ r)) ++ body).length := by simp
    refine (quiet_declarations_iff le).2 ?_ i lt
    rw [List.take_left]
    exact h.passes checks
  · have introduced (name : String) :
        introducer? ((p ++ (s₁ ++ (s₂ ++ r)) ++ body).take (p ++ (s₁ ++ (s₂ ++ r))).length) name =
          introducer? ((p ++ (s₂ ++ (s₁ ++ r)) ++ body).take (p ++ (s₁ ++ (s₂ ++ r))).length)
            name := by
      rw [List.take_left, length, List.take_left]
      exact introducer?_exchange h.noProgram' checks.1 name
    rw [← length, ← h.sameBody.faultAt?_eq scan introduced (by omega)]
    exact quiet i

/-- Two groups of variable declarations that follow each other may be exchanged: the stream is
accepted in one order if and only if it is in the other. The two results have the same counts and
the same program names; the symbols are the same but for their order and their addresses; a name
that is declared outside of the two groups has one address in both; and the names of the groups
share their addresses. -/
theorem exchange_of_declarations (h : Exchangeable p s₁ s₂ r body)
    (scan : settings.scan = .statement) :
    ((∃ a, (analyze settings (p ++ (s₁ ++ (s₂ ++ r)) ++ body)).outcome = .ok a) ↔
      ∃ b, (analyze settings (p ++ (s₂ ++ (s₁ ++ r)) ++ body)).outcome = .ok b) ∧
    ∀ a b, (analyze settings (p ++ (s₁ ++ (s₂ ++ r)) ++ body)).outcome = .ok a →
      (analyze settings (p ++ (s₂ ++ (s₁ ++ r)) ++ body)).outcome = .ok b →
      a.tally = b.tally ∧ a.programs = b.programs ∧
      (a.symbols.symbols.map Symbol.unnumbered).Perm (b.symbols.symbols.map Symbol.unnumbered) ∧
      (∀ i t, Introduces (p ++ (s₁ ++ (s₂ ++ r))) i t →
        i < p.length ∨ (p ++ (s₁ ++ s₂)).length ≤ i →
        a.symbols.addressOf? t.lexeme = b.symbols.addressOf? t.lexeme) ∧
      ((identifierNames (s₁ ++ s₂)).map a.symbols.addressOf?).Perm
        ((identifierNames (s₁ ++ s₂)).map b.symbols.addressOf?) := by
  have accepted {x y : List Token} {a : Analysis} (h : Exchangeable p x y r body) :
      (analyze settings (p ++ (x ++ (y ++ r)) ++ body)).outcome = .ok a ↔
        (∀ i, faultAt? settings (p ++ (x ++ (y ++ r)) ++ body) (p ++ (x ++ (y ++ r))).length i =
          none) ∧ a = analysisOf settings (p ++ (x ++ (y ++ r)) ++ body)
            (p ++ (x ++ (y ++ r))).length :=
    outcome_analyze_eq_ok_iff_of_begin h.findIdx?_isBegin
  refine ⟨⟨?_, ?_⟩, ?_⟩
  · rintro ⟨a, ha⟩
    exact ⟨_, (accepted h.symm).2 ⟨h.quiet_exchange scan ((accepted h).1 ha).1, rfl⟩⟩
  · rintro ⟨b, hb⟩
    exact ⟨_, (accepted h).2 ⟨h.symm.quiet_exchange scan ((accepted h.symm).1 hb).1, rfl⟩⟩
  · intro a b ha hb
    have fresh := (passed_of_quiet ((accepted h).1 ha).1).1
    obtain ⟨table, symbols, programs, tally⟩ := tables_of_declarations h.findIdx?_isBegin ha
    obtain ⟨table', symbols', programs', tally'⟩ :=
      tables_of_declarations h.symm.findIdx?_isBegin hb
    refine ⟨?_, ?_, ?_, ?_, ?_⟩
    · have perm : ((p ++ (s₁ ++ (s₂ ++ r)) ++ body).take (p ++ (s₁ ++ (s₂ ++ r))).length).Perm
          ((p ++ (s₂ ++ (s₁ ++ r)) ++ body).take (p ++ (s₁ ++ (s₂ ++ r))).length) := by
        rw [List.take_left, (exchange_perm p s₁ s₂ r).length_eq, List.take_left]
        exact exchange_perm p s₁ s₂ r
      rw [tally, tally', h.sameBody.tally_eq perm, (exchange_perm p s₁ s₂ r).length_eq]
    · rw [programs_exchange h.noProgram h.noProgram', ← programs'] at programs
      exact congrArg AddressTable.mk programs
    · rw [symbols, symbols']
      exact symbols_exchange h.noProgram h.noProgram'
    · intro i t introduced outside
      rw [table, table']
      exact addressOf?_exchange introduced outside
    · rw [table, table']
      exact addresses_exchange h.noProgram h.noProgram' fresh

end Analysis

/-- A variable in front, two groups of one and two variables, then a program name, one that is the
name of a variable already, and a last variable. -/
def frontGroup : List Token :=
  [.plain .intId "a" 1, .plain .intKw "int" 1, .plain .semicolon ";" 1]

def firstGroup : List Token :=
  [.plain .realId "r" 2, .plain .realKw "real" 2, .plain .semicolon ";" 2]

def secondGroup : List Token :=
  [.plain .stringId "s" 3, .plain .stringKw "string" 3, .plain .semicolon ";" 3,
    .plain .intId "n" 3, .plain .intKw "int" 3, .plain .semicolon ";" 3]

def lastGroup : List Token :=
  [.plain .generalId "demo" 4, .plain .generalId "s" 5, .plain .intId "z" 6, .plain .intKw "int" 6,
    .plain .semicolon ";" 6]

def groupsBody : List Token :=
  [.plain .beginKw "begin" 7, .plain .intId "n" 8, .plain .assign "=" 8, .plain .intConst "5" 8,
    .plain .semicolon ";" 8, .plain .endKw "end" 9]

/-- The two groups trade their addresses; the name in front and the last one keep theirs. -/
theorem exchange_of_groups :
    ∃ a b, (analyze {} (frontGroup ++ (firstGroup ++ (secondGroup ++ lastGroup)) ++
        groupsBody)).outcome = .ok a ∧
      (analyze {} (frontGroup ++ (secondGroup ++ (firstGroup ++ lastGroup)) ++
        groupsBody)).outcome = .ok b ∧
      ["a", "r", "s", "n", "demo", "z"].map a.symbols.addressOf? =
        [some 0, some 1, some 2, some 3, some 0, some 5] ∧
      ["a", "r", "s", "n", "demo", "z"].map b.symbols.addressOf? =
        [some 0, some 3, some 1, some 2, some 0, some 5] ∧
      a.tally = b.tally ∧ a.programs = b.programs ∧
      (a.symbols.symbols.map Symbol.unnumbered).Perm (b.symbols.symbols.map Symbol.unnumbered) ∧
      a.symbols ≠ b.symbols := by
  have exchangeable : Exchangeable frontGroup firstGroup secondGroup lastGroup groupsBody :=
    ⟨.inr ⟨frontGroup.dropLast, _, rfl, rfl⟩, ⟨firstGroup.dropLast, _, rfl, rfl⟩,
      ⟨secondGroup.dropLast, _, rfl, rfl⟩, by decide, by decide, by decide, _, _, rfl, rfl⟩
  obtain ⟨a, ha, addresses⟩ : ∃ a, (analyze {} (frontGroup ++ (firstGroup ++ (secondGroup ++
      lastGroup)) ++ groupsBody)).outcome = .ok a ∧
        ["a", "r", "s", "n", "demo", "z"].map a.symbols.addressOf? =
          [some 0, some 1, some 2, some 3, some 0, some 5] := ⟨_, rfl, by decide +kernel⟩
  obtain ⟨b, hb, addresses'⟩ : ∃ b, (analyze {} (frontGroup ++ (secondGroup ++ (firstGroup ++
      lastGroup)) ++ groupsBody)).outcome = .ok b ∧
        ["a", "r", "s", "n", "demo", "z"].map b.symbols.addressOf? =
          [some 0, some 3, some 1, some 2, some 0, some 5] := ⟨_, rfl, by decide +kernel⟩
  obtain ⟨tally, programs, symbols, -, -⟩ := (exchange_of_declarations exchangeable rfl).2 a b ha hb
  refine ⟨a, b, ha, hb, addresses, addresses', tally, programs, symbols, ?_⟩
  intro same
  rw [same, addresses'] at addresses
  exact absurd addresses (by decide)

end Pseudocode
