/-
  Pseudocode.Proofs.Check.SharedTypes — identifiers that share a declaration share its type.

  A declaration is a list of names, the word for their type and a semicolon, but the analysis does
  not know lists. Every typed identifier looks for its type on its own: it goes on to the next
  semicolon of the declarations and compares its kind with the word in front of it. That the names
  of one list have one type comes of three things. Where no semicolon stands between two
  identifiers, both searches end at the same one (`DeclaredBy.of_between`); within a dialect a word
  names one type; and no search passes the body-begin keyword, so the last list has its semicolon
  among the declarations too.

  Proved:
  (1) A position has one semicolon that comes next (`EndsAt.unique`), and it is the one that the
      search finds (`nextSemicolon?_eq_some_iff`).
  (2) An identifier without a fault is declared by the word in front of it
      (`exists_declaredBy_of_quiet`).
  (3) In an accepted stream, identifiers without a semicolon between them are declared by the same
      word, and a list of declarations has one type (`declarations_share_types`).
-/

import Pseudocode.Proofs.Check.Assignments

namespace Pseudocode

/-- The identifier at `i` is declared by `word`: the semicolon that comes next stands at `s`, in
front of `m`, and the word in front of it. -/
structure DeclaredBy (tokens : List Token) (m i s : Nat) (word : Token) : Prop where
  ends : EndsAt tokens (i + 1) s
  inside : s < m
  word : tokens[s - 1]? = some word

/-- No semicolon stands strictly between two positions. -/
def NoneBetween (tokens : List Token) (i j : Nat) : Prop :=
  ∀ k, i < k → k < j → ∀ t, tokens[k]? = some t → t.isSemicolon = false

/-! ## The next semicolon -/

section NextSemicolon

variable {tokens : List Token} {m i j s : Nat}

theorem EndsAt.unique {s' : Nat} (h : EndsAt tokens i s) (h' : EndsAt tokens i s') : s = s' := by
  obtain ⟨t, ht, semicolon⟩ := h.semicolon
  obtain ⟨t', ht', semicolon'⟩ := h'.semicolon
  rcases Nat.lt_trichotomy s s' with lt | e | lt
  · rw [h'.before s h.le lt t ht] at semicolon
    cases semicolon
  · exact e
  · rw [h.before s' h'.le lt t' ht'] at semicolon'
    cases semicolon'

/-- The search goes by the positions in front of `m`. -/
theorem nextSemicolon?_eq_some_iff :
    nextSemicolon? tokens i m = some s ↔ EndsAt tokens (i + 1) s ∧ s < m := by
  have here (n : Nat) : ((tokens.take m).drop (i + 1))[n]? =
      if i + 1 + n < m then tokens[i + 1 + n]? else none := by
    rw [List.getElem?_drop, List.getElem?_take]
  rw [nextSemicolon?, Option.map_eq_some_iff]
  constructor
  · rintro ⟨n, found, rfl⟩
    obtain ⟨lt, semicolon, before⟩ := List.findIdx?_eq_some_iff_getElem.1 found
    have inside : i + 1 + n < m := by
      rw [List.length_drop, List.length_take] at lt
      omega
    have at_ := List.getElem?_eq_getElem lt
    rw [here, if_pos inside] at at_
    refine ⟨⟨Nat.le_add_right _ _, ⟨_, at_, semicolon⟩, ?_⟩, inside⟩
    intro k ge below t ht
    obtain ⟨x, rfl⟩ := Nat.exists_eq_add_of_le ge
    have earlier : ((tokens.take m).drop (i + 1))[x]? = some t := by
      rw [here, if_pos (by omega), ht]
    obtain ⟨lt', e⟩ := List.getElem?_eq_some_iff.1 earlier
    have none := before x (by omega)
    rw [e] at none
    simpa using none
  · rintro ⟨⟨ge, ⟨t, ht, semicolon⟩, before⟩, inside⟩
    obtain ⟨n, rfl⟩ := Nat.exists_eq_add_of_le ge
    have at_ : ((tokens.take m).drop (i + 1))[n]? = some t := by rw [here, if_pos inside, ht]
    obtain ⟨lt, e⟩ := List.getElem?_eq_some_iff.1 at_
    refine ⟨n, List.findIdx?_eq_some_iff_getElem.2 ⟨lt, by rw [e, semicolon], ?_⟩, rfl⟩
    intro x below
    have earlier := List.getElem?_eq_getElem (Nat.lt_trans below lt)
    rw [here, if_pos (by omega)] at earlier
    rw [before (i + 1 + x) (Nat.le_add_right _ _) (by omega) _ earlier]
    simp

/-- The word of a declaration is the announcement that its identifier finds. -/
theorem announcement?_eq_some_iff {word : Token} :
    announcement? tokens i m = some word ↔ ∃ s, DeclaredBy tokens m i s word := by
  rw [announcement?, Option.bind_eq_some_iff]
  constructor
  · rintro ⟨s, found, hw⟩
    obtain ⟨ends, inside⟩ := nextSemicolon?_eq_some_iff.1 found
    exact ⟨s, ends, inside, hw⟩
  · rintro ⟨s, ends, inside, hw⟩
    exact ⟨s, nextSemicolon?_eq_some_iff.2 ⟨ends, inside⟩, hw⟩

/-- Where no semicolon stands between two positions, and none at the second, the one that comes next
is the same. -/
theorem DeclaredBy.of_between {word u : Token} (h : DeclaredBy tokens m j s word) (lt : i < j)
    (hu : tokens[j]? = some u) (open_ : u.isSemicolon = false)
    (between : NoneBetween tokens i j) : DeclaredBy tokens m i s word := by
  have behind := h.ends.le
  refine ⟨⟨by omega, h.ends.semicolon, ?_⟩, h.inside, h.word⟩
  intro k ge below t ht
  rcases Nat.lt_trichotomy k j with front | rfl | back
  · exact between k ge front t ht
  · cases hu.symm.trans ht
    exact open_
  · exact h.ends.before k back below t ht

theorem DeclaredBy.unique {s' : Nat} {word word' : Token} (h : DeclaredBy tokens m i s word)
    (h' : DeclaredBy tokens m i s' word') : s = s' ∧ word = word' := by
  obtain rfl := h.ends.unique h'.ends
  exact ⟨rfl, Option.some.inj (h.word.symm.trans h'.word)⟩

end NextSemicolon

/-! ## Accepted declarations -/

section Accepted

variable {settings : Settings} {tokens : List Token} {m i j : Nat} {t u : Token}
  {type : ValueType}

/-- An identifier without a fault is declared by a word that names its type. -/
theorem exists_declaredBy_of_quiet (quiet : faultAt? settings tokens m i = none) (lt : i < m)
    (ht : tokens[i]? = some t) (hv : t.kind.valueType? = some type) :
    ∃ s word, DeclaredBy tokens m i s word ∧ word.lexeme = settings.dialect.typeName type := by
  rw [faultAt?_of_variable ht lt hv, declarationFault?_eq_none_iff] at quiet
  obtain ⟨-, word, announced, named⟩ := quiet
  obtain ⟨s, declared⟩ := announcement?_eq_some_iff.1 announced
  exact ⟨s, word, declared, named⟩

/-- Two identifiers without a fault and no semicolon between them are declared by one word. -/
theorem exists_declaredBy_of_between (quiet : ∀ i, faultAt? settings tokens m i = none) (lt : i < j)
    (inside : j < m) (ht : tokens[i]? = some t) (hu : tokens[j]? = some u)
    (hv : t.kind.valueType? = some type) (typed : u.kind.valueType?.isSome = true)
    (between : NoneBetween tokens i j) :
    t.kind = u.kind ∧ ∃ s word, DeclaredBy tokens m i s word ∧ DeclaredBy tokens m j s word ∧
      word.lexeme = settings.dialect.typeName type := by
  obtain ⟨other, hv'⟩ := Option.isSome_iff_exists.1 typed
  obtain ⟨s, word, declared, named⟩ :=
    exists_declaredBy_of_quiet (quiet i) (Nat.lt_trans lt inside) ht hv
  obtain ⟨s', word', declared', named'⟩ := exists_declaredBy_of_quiet (quiet j) inside hu hv'
  have open_ := isSemicolon_of_isIdentifier (Token.isIdentifier_of_valueType? hv')
  obtain ⟨rfl, rfl⟩ := declared.unique (declared'.of_between lt hu open_ between)
  obtain rfl := Dialect.typeName_injective (named.symm.trans named')
  refine ⟨?_, s, word, declared, declared', named⟩
  rw [← ValueType.identifierKind_of_valueType? hv, ← ValueType.identifierKind_of_valueType? hv']

/-- The tokens of a back part of the declarations, by their positions in the stream. -/
theorem getElem?_of_take_eq {front back : List Token} (split : tokens.take m = front ++ back)
    {x : Nat} (lt : x < back.length) :
    front.length + x < m ∧ tokens[front.length + x]? = some back[x] := by
  have here : (tokens.take m)[front.length + x]? = some back[x] := by
    rw [split, List.getElem?_append_right (Nat.le_add_right _ _), Nat.add_sub_cancel_left,
      List.getElem?_eq_getElem lt]
  rw [List.getElem?_take] at here
  split at here
  · exact ⟨‹_›, here⟩
  · cases here

/-- Where a list ends at a semicolon of the declarations, its last token declares all of it. -/
theorem declaredBy_of_list {before list after : List Token} {last semicolon : Token} {x : Nat}
    (split : tokens.take m = before ++ (list ++ [last] ++ semicolon :: after))
    (open_ : ∀ v ∈ list ++ [last], v.isSemicolon = false) (ends : semicolon.isSemicolon = true)
    (inside : x < (list ++ [last]).length) :
    before.length + x < m ∧ tokens[before.length + x]? = some (list ++ [last])[x] ∧
      DeclaredBy tokens m (before.length + x) (before.length + (list ++ [last]).length) last := by
  have at_ {y : Nat} (lt : y < (list ++ [last] ++ semicolon :: after).length) :=
    getElem?_of_take_eq split lt
  have long : (list ++ [last]).length < (list ++ [last] ++ semicolon :: after).length := by simp
  obtain ⟨stop, hs⟩ := at_ long
  have hx := (at_ (Nat.lt_trans inside long)).2
  rw [List.getElem_append_left inside] at hx
  refine ⟨by omega, hx, ⟨by omega, ⟨semicolon, ?_, ends⟩, ?_⟩, stop, ?_⟩
  · simpa using hs
  · intro k ge below v hv
    obtain ⟨y, rfl⟩ := Nat.exists_eq_add_of_le (show before.length ≤ k by omega)
    have among : y < (list ++ [last]).length := by omega
    have hy := (at_ (Nat.lt_trans among long)).2
    rw [List.getElem_append_left among, hv] at hy
    exact Option.some.inj hy ▸ open_ _ (List.getElem_mem among)
  · have hw := (at_ (y := list.length) (by simp)).2
    rw [List.length_append, List.length_singleton]
    simpa using hw

/-- The last token of such a list names the type of each identifier in it that has no fault. -/
theorem typeName_of_list {before list after : List Token} {last semicolon : Token}
    (quiet : ∀ i, faultAt? settings tokens m i = none)
    (split : tokens.take m = before ++ (list ++ [last] ++ semicolon :: after))
    (open_ : ∀ v ∈ list ++ [last], v.isSemicolon = false) (ends : semicolon.isSemicolon = true)
    (mem : t ∈ list ++ [last]) (hv : t.kind.valueType? = some type) :
    last.lexeme = settings.dialect.typeName type := by
  obtain ⟨x, lt, rfl⟩ := List.getElem_of_mem mem
  obtain ⟨inside, ht, listed⟩ := declaredBy_of_list split open_ ends lt
  obtain ⟨s, word, declared, named⟩ := exists_declaredBy_of_quiet (quiet _) inside ht hv
  obtain ⟨-, rfl⟩ := listed.unique declared
  exact named

end Accepted

/-- In an accepted stream every typed identifier of the declarations has a semicolon behind it in
front of the body. Two of them with no semicolon between them have the same kind: that of the type
which the word in front of the semicolon names, in the dialect of the analysis. So a list that ends
at a semicolon declares all its identifiers of one type, which its last token names. -/
theorem declarations_share_types {settings : Settings} {tokens : List Token} {a : Analysis}
    (accepted : (analyze settings tokens).outcome = .ok a) :
    ∃ m, tokens.findIdx? Token.isBegin = some m ∧
      (∀ i t, i < m → tokens[i]? = some t → t.kind.valueType?.isSome = true →
        ∃ s word, DeclaredBy tokens m i s word) ∧
      (∀ i j t u, i < j → j < m → tokens[i]? = some t → tokens[j]? = some u →
        t.kind.valueType?.isSome = true → u.kind.valueType?.isSome = true → NoneBetween tokens i j →
        t.kind = u.kind ∧ ∃ s word type, DeclaredBy tokens m i s word ∧
          DeclaredBy tokens m j s word ∧ word.lexeme = settings.dialect.typeName type ∧
          t.kind = type.identifierKind) ∧
      ∀ before list last semicolon after,
        tokens.take m = before ++ (list ++ [last] ++ semicolon :: after) →
        (∀ v ∈ list ++ [last], v.isSemicolon = false) → semicolon.isSemicolon = true →
        ∃ type : ValueType, ∀ t ∈ list ++ [last], t.kind.valueType?.isSome = true →
          t.kind = type.identifierKind ∧ last.lexeme = settings.dialect.typeName type := by
  obtain ⟨m, hm, quiet, -⟩ := outcome_analyze_eq_ok_iff.1 accepted
  refine ⟨m, hm, ?_, ?_, ?_⟩
  · intro i t lt ht typed
    obtain ⟨type, hv⟩ := Option.isSome_iff_exists.1 typed
    obtain ⟨s, word, declared, -⟩ := exists_declaredBy_of_quiet (quiet i) lt ht hv
    exact ⟨s, word, declared⟩
  · intro i j t u lt inside ht hu typed typed' between
    obtain ⟨type, hv⟩ := Option.isSome_iff_exists.1 typed
    obtain ⟨same, s, word, declared, declared', named⟩ :=
      exists_declaredBy_of_between quiet lt inside ht hu hv typed' between
    exact ⟨same, s, word, type, declared, declared', named,
      (ValueType.identifierKind_of_valueType? hv).symm⟩
  · intro before list last semicolon after split open_ ends
    have named {t : Token} (mem : t ∈ list ++ [last]) {type : ValueType}
        (hv : t.kind.valueType? = some type) := typeName_of_list quiet split open_ ends mem hv
    by_cases some_ : ∃ t ∈ list ++ [last], t.kind.valueType?.isSome = true
    · obtain ⟨t, mem, typed⟩ := some_
      obtain ⟨type, hv⟩ := Option.isSome_iff_exists.1 typed
      refine ⟨type, fun u mem' typed' => ?_⟩
      obtain ⟨other, hv'⟩ := Option.isSome_iff_exists.1 typed'
      obtain rfl := Dialect.typeName_injective
        ((named mem hv).symm.trans (named mem' hv'))
      exact ⟨(ValueType.identifierKind_of_valueType? hv').symm, named mem hv⟩
    · exact ⟨.int, fun u mem' typed' => absurd ⟨u, mem', typed'⟩ some_⟩

/-- Two strings that share a word, and an int, in Spanish. -/
def sharedDeclaration : List Token :=
  [.plain .stringId "a" 1, .plain .comma "," 1, .plain .stringId "b" 1,
    .plain .stringKw "cadena" 1, .plain .semicolon ";" 1,
    .plain .intId "n" 2, .plain .intKw "entero" 2, .plain .semicolon ";" 2,
    .plain .beginKw "inicio" 3]

/-- The word in front of the first semicolon declares both strings, and the list that it ends has no
other type; the int behind that semicolon has a declaration of its own. -/
theorem sharedDeclaration_shares_type :
    (∃ s word, DeclaredBy sharedDeclaration 8 5 s word) ∧
    (∃ s word type, DeclaredBy sharedDeclaration 8 0 s word ∧
      DeclaredBy sharedDeclaration 8 2 s word ∧ word.lexeme = Dialect.spanish.typeName type ∧
      Kind.stringId = type.identifierKind) ∧
    ∃ type : ValueType, ∀ t ∈ sharedDeclaration.take 4, t.kind.valueType?.isSome = true →
      t.kind = type.identifierKind ∧ "cadena" = Dialect.spanish.typeName type := by
  have accepted : (analyze { dialect := .spanish } sharedDeclaration).outcome =
      .ok (analysisOf { dialect := .spanish } sharedDeclaration 8) := by decide
  obtain ⟨m, hm, ended, shared, listed⟩ := declarations_share_types accepted
  cases (show some 8 = some m from hm)
  have between : NoneBetween sharedDeclaration 0 2 := by
    intro k above below t ht
    obtain rfl : k = 1 := by omega
    cases ht
    rfl
  exact ⟨ended 5 (.plain .intId "n" 2) (by decide) rfl rfl,
    (shared 0 2 (.plain .stringId "a" 1) (.plain .stringId "b" 1) (by decide) (by decide) rfl rfl
      rfl rfl between).2,
    listed [] (sharedDeclaration.take 3) (.plain .stringKw "cadena" 1) (.plain .semicolon ";" 1)
      ((sharedDeclaration.drop 5).take 3) rfl (by decide) rfl⟩

end Pseudocode
