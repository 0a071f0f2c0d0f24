/-
  Pseudocode.Proofs.Check.Tables — the tables that an analysis leaves.

  A name is introduced at one position only, so two entries that stem from introductions carry
  different names, within a table and across the two. What makes every symbol stem from one is
  that the analysis found no fault: a typed identifier among the declarations is then new. A
  program name may come again, before or after a variable of that name; it opens its scope once
  more and enters no table.

  Proved:
  (1) A name is introduced at one position (`index_eq_of_introduces`), so a table made from
      introductions holds no name twice (`nodup_of_introduces`).
  (2) Without a fault a typed identifier introduces its name (`introduces_of_typed`).
  (3) What the two tables of a successful analysis hold, in order, and that no name stands twice
      in the two together (`tables_of_analyze`).
-/

import Pseudocode.Proofs.Check.Verdict

namespace Pseudocode

/-! ## Introductions -/

/-- `t` stands at position `i` and is the first identifier that carries its name. -/
structure Introduces (tokens : List Token) (i : Nat) (t : Token) : Prop where
  here : tokens[i]? = some t
  isIdentifier : t.isIdentifier = true
  new : introducer? (tokens.take i) t.lexeme = none

section Introduces

variable {tokens : List Token} {i j : Nat} {t u : Token}

/-- Behind the position that introduces a name it stays the introducer. -/
theorem introducer?_take (h : Introduces tokens i t) (lt : i < j) :
    introducer? (tokens.take j) t.lexeme = some t := by
  induction j, lt using Nat.le_induction with
  | base =>
    rw [take_concat h.here, introducer?_concat, h.new]
    simp [Token.names, h.isIdentifier]
  | succ j _ ih =>
    cases hu : tokens[j]? with
    | none => rw [take_succ_of_none hu, ih]
    | some u =>
      rw [take_concat hu, introducer?_concat, ih]
      rfl

theorem not_introduces_of_lt (h : Introduces tokens i t) (lt : i < j) (e : t.lexeme = u.lexeme) :
    ¬ Introduces tokens j u := by
  intro h'
  have found := introducer?_take h lt
  rw [e, h'.new] at found
  cases found

theorem index_eq_of_introduces (h : Introduces tokens i t) (h' : Introduces tokens j u)
    (e : t.lexeme = u.lexeme) : i = j := by
  rcases Nat.lt_trichotomy i j with lt | eq | gt
  · exact absurd h' (not_introduces_of_lt h lt e)
  · exact eq
  · exact absurd h (not_introduces_of_lt h' gt e.symm)

/-- A table whose entries stem from introductions holds no name twice. -/
theorem nodup_of_introduces {α : Type} (tokens : List Token) {entryAt? : Nat → Option α}
    {name : α → String} {m : Nat}
    (h : ∀ i < m, ∀ entry, entryAt? i = some entry →
      ∃ t, Introduces tokens i t ∧ t.lexeme = name entry) :
    (((List.range m).filterMap entryAt?).map name).Nodup := by
  rw [List.map_filterMap, List.Nodup, List.pairwise_filterMap]
  refine List.pairwise_lt_range.imp_of_mem ?_
  intro i j hi hj lt x hx y hy e
  rw [Option.map_eq_some_iff] at hx hy
  obtain ⟨a, ha, rfl⟩ := hx
  obtain ⟨b, hb, rfl⟩ := hy
  obtain ⟨t, ht, et⟩ := h i (List.mem_range.1 hi) a ha
  obtain ⟨u, hu, eu⟩ := h j (List.mem_range.1 hj) b hb
  have : i = j := index_eq_of_introduces ht hu (by rw [et, eu, e])
  omega

end Introduces

/-! ## The entries of a position -/

section Entries

variable {settings : Settings} {tokens : List Token} {m i : Nat} {t : Token}

/-- A position without a fault introduces the name of its typed identifier. -/
theorem introduces_of_typed (quiet : faultAt? settings tokens m i = none) (lt : i < m)
    (ht : tokens[i]? = some t) (typed : t.kind.valueType?.isSome = true) :
    Introduces tokens i t := by
  obtain ⟨type, hv⟩ := Option.isSome_iff_exists.1 typed
  have hid : t.isIdentifier = true := Token.isIdentifier_of_valueType? hv
  rw [faultAt?_of_variable ht lt hv] at quiet
  exact ⟨ht, hid, (declarationFault?_eq_none_iff.1 quiet).1⟩

/-- The symbol of a position is that of a typed identifier there. -/
theorem kind_of_symbolAt? {s : Symbol} (h : symbolAt? settings tokens i = some s) :
    ∃ t type, tokens[i]? = some t ∧ t.kind.valueType? = some type ∧
      s.kind = type.identifierKind := by
  obtain ⟨t, ht, h⟩ := Option.bind_eq_some_iff.1 h
  obtain ⟨type, hv, rfl⟩ := Option.map_eq_some_iff.1 h
  exact ⟨t, type, ht, hv, (ValueType.identifierKind_of_valueType? hv).symm⟩

theorem introduces_of_symbolAt? (quiet : faultAt? settings tokens m i = none) (lt : i < m)
    {s : Symbol} (hs : symbolAt? settings tokens i = some s) :
    ∃ t, Introduces tokens i t ∧ t.lexeme = s.lexeme ∧ t.kind ≠ .generalId := by
  unfold symbolAt? at hs
  rw [Option.bind_eq_some_iff] at hs
  obtain ⟨t, ht, hs⟩ := hs
  rw [Option.map_eq_some_iff] at hs
  obtain ⟨type, hv, rfl⟩ := hs
  refine ⟨t, introduces_of_typed quiet lt ht (by rw [hv]; rfl), rfl, ?_⟩
  intro hk
  rw [hk] at hv
  cases hv

theorem introduces_of_programAt? {e : AddressEntry} (he : programAt? tokens i = some e) :
    ∃ t, Introduces tokens i t ∧ t.lexeme = e.lexeme ∧ t.kind = .generalId := by
  unfold programAt? at he
  rw [Option.bind_eq_some_iff] at he
  obtain ⟨t, ht, he⟩ := he
  split at he
  · rename_i program
    obtain ⟨hk, new⟩ := program
    cases he
    exact ⟨t, ⟨ht, Kind.isIdentifier_iff.2 (.inr hk), new⟩, rfl, hk⟩
  · cases he

end Entries

/-! ## The tables -/

/-- A symbol without its address. -/
def Symbol.unnumbered (s : Symbol) : Symbol := { s with address := 0 }

/-- Declarations without a fault leave the symbols of their positions. -/
theorem symbols_of_quiet {settings : Settings} {tokens : List Token} {m : Nat}
    (quiet : ∀ i, faultAt? settings tokens m i = none) :
    (tableAt settings tokens m).symbols =
      (List.range m).filterMap (symbolAt? settings tokens) := by
  apply symbols_tableAt
  intro i lt t ht typed
  exact (introduces_of_typed (quiet i) lt ht typed).new

/-- No name stands twice in the two tables of declarations without a fault. -/
theorem names_nodup {settings : Settings} {tokens : List Token} {m : Nat}
    (quiet : ∀ i, faultAt? settings tokens m i = none) :
    (((List.range m).filterMap (symbolAt? settings tokens)).map Symbol.lexeme ++
      ((List.range m).filterMap (programAt? tokens)).map AddressEntry.lexeme).Nodup := by
  rw [List.nodup_append]
  refine ⟨?_, ?_, ?_⟩
  · refine nodup_of_introduces tokens fun i lt s hs => ?_
    obtain ⟨t, ht, e, -⟩ := introduces_of_symbolAt? (quiet i) lt hs
    exact ⟨t, ht, e⟩
  · refine nodup_of_introduces tokens fun i _ entry he => ?_
    obtain ⟨t, ht, e, -⟩ := introduces_of_programAt? he
    exact ⟨t, ht, e⟩
  · intro x hx y hy same
    obtain ⟨s, hs, rfl⟩ := List.mem_map.1 hx
    obtain ⟨entry, he, rfl⟩ := List.mem_map.1 hy
    obtain ⟨i, hi, hs⟩ := List.mem_filterMap.1 hs
    obtain ⟨j, -, he⟩ := List.mem_filterMap.1 he
    obtain ⟨t, ht, et, typed⟩ := introduces_of_symbolAt? (quiet i) (List.mem_range.1 hi) hs
    obtain ⟨u, hu, eu, program⟩ := introduces_of_programAt? he
    -- both names are introduced at one position, by one token of two kinds
    have : i = j := index_eq_of_introduces ht hu (by rw [et, eu, same])
    subst this
    have : t = u := Option.some.inj (ht.here.symm.trans hu.here)
    exact typed (this ▸ program)

/-- The tables of an analysis hold what its declarations introduce, in order, and no name twice. -/
theorem tables_of_analyze {settings : Settings} {tokens : List Token} {a : Analysis}
    (h : (analyze settings tokens).outcome = .ok a) :
    ∃ m, tokens.findIdx? Token.isBegin = some m ∧
      a.symbols.symbols = (List.range m).filterMap (symbolAt? settings tokens) ∧
      a.programs.entries = (List.range m).filterMap (programAt? tokens) ∧
      (a.symbols.symbols.map Symbol.lexeme ++
        a.programs.entries.map AddressEntry.lexeme).Nodup := by
  obtain ⟨m, hm, quiet, rfl⟩ := outcome_analyze_eq_ok_iff.1 h
  have symbols : (analysisOf settings tokens m).symbols.symbols =
      (List.range m).filterMap (symbolAt? settings tokens) := symbols_of_quiet quiet
  refine ⟨m, hm, symbols, rfl, ?_⟩
  rw [symbols]
  exact names_nodup quiet

/-- Declares a variable before any program is named, names one program twice, and names a last one
like the variable. -/
def renamedProgram : List Token :=
  [.plain .intId "n" 1, .plain .intKw "int" 1, .plain .semicolon ";" 1,
    .plain .generalId "demo" 2, .plain .generalId "lib" 3, .plain .generalId "demo" 4,
    .plain .realId "r" 5, .plain .realKw "real" 5, .plain .semicolon ";" 5,
    .plain .generalId "n" 6, .plain .stringId "s" 7, .plain .stringKw "string" 7,
    .plain .semicolon ";" 7,
    .plain .beginKw "begin" 8,
    .plain .intId "n" 9, .plain .assign "=" 9, .plain .intConst "5" 9, .plain .semicolon ";" 9,
    .plain .whileKw "while" 10, .plain .leftParen "(" 10, .plain .realId "r" 10,
    .plain .lt "<" 10, .plain .intId "n" 10, .plain .rightParen ")" 10, .plain .doKw "do" 10,
    .plain .beginKw "begin" 10, .plain .endKw "end" 11, .plain .endKw "end" 12]

/-- The scope follows every program name, the address and the entries only the new ones. -/
theorem tables_of_renamedProgram :
    ∃ a, (analyze {} renamedProgram).outcome = .ok a ∧
      a.symbols.symbols =
        [⟨.intId, "n", "0", "Main", 0⟩, ⟨.realId, "r", "0.0", "demo", 3⟩,
          ⟨.stringId, "s", "null", "n", 4⟩] ∧
      a.programs.entries = [⟨.generalId, "demo", 2, 0⟩, ⟨.generalId, "lib", 3, 0⟩] := by
  obtain ⟨a, h⟩ : ∃ a, (analyze {} renamedProgram).outcome = .ok a := ⟨_, rfl⟩
  obtain ⟨m, hm, symbols, programs, -⟩ := tables_of_analyze h
  have : m = 13 := Option.some.inj (hm.symm.trans (by decide))
  subst this
  exact ⟨a, h, symbols.trans (by decide), programs.trans (by decide)⟩

end Pseudocode
