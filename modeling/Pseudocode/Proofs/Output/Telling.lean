/-
  Pseudocode.Proofs.Output.Telling — what the text of a table tells.

  A row joins its fields with a comma and a space and escapes nothing, and a comma may be a lexeme,
  or stand in a scope. Still a row tells its fields. The code in front is a number; the lexeme
  behind it is a comma, or it ends at the next comma; the value is that of the kind; and the scope
  is all that is left. No field has a newline, so a text tells its rows. What the text of the
  symbols does not show is their addresses.

  Proved:
  (1) A lexeme that was read ends at one place of a row only (`Recordable.append_comma_inj`), so the
      columns of a row are told by the row (`joined_inj`).
  (2) Rows without a newline are told by the text that they are rendered to (`renderRows_inj`).
  (3) The symbols and the program names of a source can be told from their rows
      (`symbol_writable`, `entry_writable`), so equal texts come from equal tables
      (`texts_tell_tables`).
-/

import Pseudocode.Proofs.Check.Tables
import Pseudocode.Proofs.Output.Reread
import Pseudocode.CommandLine.Run

namespace Pseudocode

open Text

/-! ## Columns of a row -/

/-- A lexeme that was read is told by a text that has a comma behind it. -/
theorem Recordable.append_comma_inj {lexeme lexeme' back back' : List Char}
    (h : Recordable lexeme) (h' : Recordable lexeme')
    (e : lexeme ++ ',' :: back = lexeme' ++ ',' :: back') : lexeme = lexeme' ∧ back = back' := by
  -- a text that begins with a comma begins with a comma for a lexeme
  have starts {l x y : List Char} (ne : l ≠ []) (free : ',' ∉ l)
      (e : [','] ++ ',' :: x = l ++ ',' :: y) : False := by
    obtain ⟨c, more, rfl⟩ := List.exists_cons_of_ne_nil ne
    obtain rfl : ',' = c := (List.cons.inj e).1
    exact free List.mem_cons_self
  rcases h with rfl | ⟨ne, free, -, -⟩
  · rcases h' with rfl | ⟨ne', free', -, -⟩
    · cases e
      exact ⟨rfl, rfl⟩
    · exact (starts ne' free' e).elim
  · rcases h' with rfl | ⟨-, free', -, -⟩
    · exact (starts ne free e.symm).elim
    · exact append_inj_of_not_mem free free' e

/-- The columns of a row are told by the row, when the first is a number, the second a lexeme that
was read, and the third has no comma. -/
theorem joined_inj {code code' lexeme lexeme' third third' last last' : List Char}
    (hcode : NumeralText code) (hcode' : NumeralText code') (hlexeme : Recordable lexeme)
    (hlexeme' : Recordable lexeme') (hthird : ',' ∉ third) (hthird' : ',' ∉ third')
    (e : joined code lexeme third last = joined code' lexeme' third' last') :
    code = code' ∧ lexeme = lexeme' ∧ third = third' ∧ last = last' := by
  unfold joined at e
  obtain ⟨sameCode, e⟩ := append_inj_of_not_mem hcode.comma_not_mem hcode'.comma_not_mem e
  obtain ⟨sameLexeme, e⟩ := hlexeme.append_comma_inj hlexeme' (List.cons.inj e).2
  obtain ⟨sameThird, e⟩ := append_inj_of_not_mem hthird hthird' (List.cons.inj e).2
  exact ⟨sameCode, sameLexeme, sameThird, (List.cons.inj e).2⟩

/-! ## Rows of a text -/

/-- Rows that have no newline are told by the text that they are rendered to. -/
theorem renderRows_inj {rows others : List String} (h : ∀ r ∈ rows, '\n' ∉ r.toList)
    (h' : ∀ r ∈ others, '\n' ∉ r.toList) (e : renderRows rows = renderRows others) :
    rows = others := by
  have nonempty (r : String) (more : List String) : renderRows (r :: more) ≠ renderRows [] := by
    intro e
    have := congrArg String.toList e
    rw [toList_renderRows_cons] at this
    simp [renderRows] at this
  induction rows generalizing others with
  | nil =>
    cases others with
    | nil => rfl
    | cons r others => exact absurd e.symm (nonempty r others)
  | cons r rows ih =>
    cases others with
    | nil => exact absurd e (nonempty r rows)
    | cons r' others =>
      rw [List.forall_mem_cons] at h h'
      have texts := congrArg String.toList e
      rw [toList_renderRows_cons, toList_renderRows_cons] at texts
      obtain ⟨first, rest⟩ := append_inj_of_not_mem h.1 h'.1 texts
      obtain rfl := String.toList_inj.1 first
      have tail : renderRows rows = renderRows others := String.toList_inj.1 rest
      rw [ih h.2 h'.2 tail]

/-- Lists that show the same through one function show the same through every function that it
tells. -/
theorem map_eq_map_of_told {α β γ : Type} {P : α → Prop} {f : α → β} {g : α → γ} {xs ys : List α}
    (hxs : ∀ x ∈ xs, P x) (hys : ∀ y ∈ ys, P y)
    (told : ∀ x y, P x → P y → f x = f y → g x = g y) (h : xs.map f = ys.map f) :
    xs.map g = ys.map g := by
  induction xs generalizing ys with
  | nil =>
    rw [List.map_nil, eq_comm, List.map_eq_nil_iff] at h
    rw [h]
  | cons x xs ih =>
    obtain ⟨y, ys, rfl, e, h⟩ := List.map_eq_cons_iff.1 h.symm
    rw [List.forall_mem_cons] at hxs hys
    rw [List.map_cons, List.map_cons, told x y hxs.1 hys.1 e.symm, ih hxs.2 hys.2 h.symm]

/-! ## Rows of the tables of a source -/

/-- A symbol that its row tells, but for the address. -/
structure Symbol.Writable (s : Symbol) : Prop where
  type : ∃ type : ValueType, s.kind = type.identifierKind ∧ s.value = type.initialValue
  lexeme : Recordable s.lexeme.toList
  scope : '\n' ∉ s.scope.toList

theorem toList_symbolRow (s : Symbol) :
    s.row.toList = joined (toString s.kind.code).toList s.lexeme.toList s.value.toList
      s.scope.toList :=
  toList_row_joined _ _ _ _

theorem toList_addressRow (e : AddressEntry) :
    e.row.toList = joined (toString e.kind.code).toList e.lexeme.toList (toString e.line).toList
      (toString e.vci).toList :=
  toList_row_joined _ _ _ _

/-- A kind is told by its written code. -/
theorem Kind.eq_of_toString_code {k k' : Kind}
    (h : (toString k.code).toList = (toString k'.code).toList) : k = k' := by
  have codes := congrArg int? h
  rw [int?_toString, int?_toString] at codes
  have kinds := congrArg ofCode? (Option.some.inj codes)
  rw [ofCode?_code, ofCode?_code] at kinds
  exact Option.some.inj kinds

theorem Symbol.Writable.comma_not_mem_value {s : Symbol} (h : s.Writable) :
    ',' ∉ s.value.toList ∧ '\n' ∉ s.value.toList := by
  obtain ⟨type, -, value⟩ := h.type
  rw [value]
  cases type <;> decide

theorem Symbol.Writable.newline_not_mem {s : Symbol} (h : s.Writable) : '\n' ∉ s.row.toList := by
  rw [toList_symbolRow]
  exact newline_not_mem_of_columns (numeralText_toString_int _).newline_not_mem
    (newline_not_mem_of_recordable h.lexeme) h.comma_not_mem_value.2 h.scope

theorem newline_not_mem_addressRow {e : AddressEntry} (h : Recordable e.lexeme.toList) :
    '\n' ∉ e.row.toList := by
  rw [toList_addressRow]
  exact newline_not_mem_joined (numeralText_toString_int _) (numeralText_toString _)
    (numeralText_toString _) (newline_not_mem_of_recordable h)

/-- A row tells its symbol, but for the address. -/
theorem Symbol.Writable.unnumbered_eq {s s' : Symbol} (h : s.Writable) (h' : s'.Writable)
    (e : s.row = s'.row) : s.unnumbered = s'.unnumbered := by
  have rows := congrArg String.toList e
  rw [toList_symbolRow, toList_symbolRow] at rows
  obtain ⟨code, lexeme, value, scope⟩ := joined_inj (numeralText_toString_int _)
    (numeralText_toString_int _) h.lexeme h'.lexeme h.comma_not_mem_value.1
    h'.comma_not_mem_value.1 rows
  simp only [Symbol.unnumbered, Kind.eq_of_toString_code code, String.toList_inj.1 lexeme,
    String.toList_inj.1 value, String.toList_inj.1 scope]

/-- A row tells its entry. -/
theorem AddressEntry.eq_of_row_eq {e e' : AddressEntry} (h : Recordable e.lexeme.toList)
    (h' : Recordable e'.lexeme.toList) (same : e.row = e'.row) : e = e' := by
  have rows := congrArg String.toList same
  rw [toList_addressRow, toList_addressRow] at rows
  obtain ⟨code, lexeme, line, vci⟩ := joined_inj (numeralText_toString_int _)
    (numeralText_toString_int _) h h' (numeralText_toString _).comma_not_mem
    (numeralText_toString _).comma_not_mem rows
  have number {n n' : Nat} (h : (toString n).toList = (toString n').toList) : n = n' := by
    have := congrArg nat? h
    rw [nat?_toString, nat?_toString] at this
    exact Option.some.inj this
  have kind := Kind.eq_of_toString_code code
  have lexeme := String.toList_inj.1 lexeme
  have line := number line
  have vci := number vci
  cases e
  cases e'
  simp_all

/-! ## What a source leaves -/

section Source

variable {settings settings' : Settings} {source source' : String} {tokens : List Token}
  {a b : Analysis}

/-- A scope is a name that was read, or the one that the settings give. -/
theorem newline_not_mem_scopeAfter (h : ∀ t ∈ tokens, t.Writable)
    (hs : '\n' ∉ settings.defaultScope.toList) :
    '\n' ∉ (scopeAfter settings tokens).toList := by
  unfold scopeAfter
  cases found : tokens.reverse.find? (·.kind = .generalId) with
  | none => exact hs
  | some t =>
    have mem : t ∈ tokens := List.mem_reverse.1 (List.mem_of_find?_eq_some found)
    exact newline_not_mem_of_recordable (h t mem).lexeme

theorem symbol_writable (hs : '\n' ∉ settings.defaultScope.toList)
    (h : (analyzeSource settings source).outcome = .ok a) {s : Symbol}
    (mem : s ∈ a.symbols.symbols) : s.Writable := by
  obtain ⟨tokens, read, analyzed⟩ := outcome_analyzeSource_eq_ok_iff.1 h
  obtain ⟨m, -, symbols, -⟩ := tables_of_analyze analyzed
  rw [symbols, List.mem_filterMap] at mem
  obtain ⟨i, -, at_i⟩ := mem
  rw [symbolAt?, Option.bind_eq_some_iff] at at_i
  obtain ⟨t, ht, at_i⟩ := at_i
  obtain ⟨type, typed, rfl⟩ := Option.map_eq_some_iff.1 at_i
  have writable : ∀ u ∈ tokens, u.Writable := fun u => writable_of_readTokens read
  refine ⟨⟨type, (ValueType.identifierKind_of_valueType? typed).symm, rfl⟩,
    (writable t (List.mem_of_getElem? ht)).lexeme, ?_⟩
  apply newline_not_mem_scopeAfter _ hs
  intro u inPrefix
  exact writable u (List.mem_of_mem_take inPrefix)

theorem entry_writable (h : (analyzeSource settings source).outcome = .ok a) {e : AddressEntry}
    (mem : e ∈ a.programs.entries) : Recordable e.lexeme.toList := by
  obtain ⟨tokens, read, analyzed⟩ := outcome_analyzeSource_eq_ok_iff.1 h
  obtain ⟨m, -, -, programs, -⟩ := tables_of_analyze analyzed
  rw [programs, List.mem_filterMap] at mem
  obtain ⟨i, -, at_i⟩ := mem
  obtain ⟨t, introduced, e, -⟩ := introduces_of_programAt? at_i
  rw [← e]
  exact (writable_of_readTokens read (List.mem_of_getElem? introduced.here)).lexeme

/-- The texts of the two tables lose nothing but the addresses of the symbols: those of two sources,
each under its own settings, are equal if and only if the symbols are equal but for their
addresses, and the program names are equal. -/
theorem texts_tell_tables (hs : '\n' ∉ settings.defaultScope.toList)
    (hs' : '\n' ∉ settings'.defaultScope.toList)
    (ha : (analyzeSource settings source).outcome = .ok a)
    (hb : (analyzeSource settings' source').outcome = .ok b) :
    (renderRows a.tables.symbols = renderRows b.tables.symbols ↔
      a.symbols.symbols.map Symbol.unnumbered = b.symbols.symbols.map Symbol.unnumbered) ∧
    (renderRows a.tables.addresses = renderRows b.tables.addresses ↔ a.programs = b.programs) := by
  have symbols (s : Symbol) (mem : s ∈ a.symbols.symbols) := symbol_writable hs ha mem
  have symbols' (s : Symbol) (mem : s ∈ b.symbols.symbols) := symbol_writable hs' hb mem
  have entries (e : AddressEntry) (mem : e ∈ a.programs.entries) := entry_writable ha mem
  have entries' (e : AddressEntry) (mem : e ∈ b.programs.entries) := entry_writable hb mem
  refine ⟨⟨?_, ?_⟩, ?_, ?_⟩
  · intro texts
    have rows : a.symbols.symbols.map Symbol.row = b.symbols.symbols.map Symbol.row :=
      renderRows_inj
        (List.forall_mem_map.2 fun s mem => (symbols s mem).newline_not_mem)
        (List.forall_mem_map.2 fun s mem => (symbols' s mem).newline_not_mem) texts
    exact map_eq_map_of_told symbols symbols' (fun _ _ => Symbol.Writable.unnumbered_eq) rows
  · intro same
    have rows := congrArg (List.map Symbol.row) same
    rw [List.map_map, List.map_map] at rows
    exact congrArg renderRows rows
  · intro texts
    have rows : a.programs.entries.map AddressEntry.row = b.programs.entries.map AddressEntry.row :=
      renderRows_inj
        (List.forall_mem_map.2 fun e mem => newline_not_mem_addressRow (entries e mem))
        (List.forall_mem_map.2 fun e mem => newline_not_mem_addressRow (entries' e mem)) texts
    have same := map_eq_map_of_told entries entries'
      (fun _ _ => AddressEntry.eq_of_row_eq) rows (g := id)
    rw [List.map_id, List.map_id] at same
    exact congrArg AddressTable.mk same
  · intro same
    rw [Analysis.tables, Analysis.tables, same]

end Source

/-- A variable named by a comma, then a program and a variable in its scope. -/
def commaRecords : String :=
  "-51,,,-2,1\n-11,int,-1,1\n-75,;,-1,1\n-55,p,-2,2\n-52,r,-2,3\n-12,real,-1,3\n-75,;,-1,3\n" ++
    "-2,begin,-1,4\n"

/-- The same variables, with one program more between them. -/
def twoProgramRecords : String :=
  "-51,,,-2,1\n-11,int,-1,1\n-75,;,-1,1\n-55,q,-2,2\n-55,p,-2,2\n-52,r,-2,3\n-12,real,-1,3\n" ++
    "-75,;,-1,3\n-2,begin,-1,4\n"

/-- The program alone, named on the same line. -/
def bareProgramRecords : String := "-55,p,-1,2\n-2,begin,-1,2\n"

/-- What the texts are rendered from, and the addresses that they do not show. -/
def Analysis.shown (a : Analysis) : (List String × List String) × List Nat :=
  ((a.tables.symbols, a.tables.addresses), a.symbols.symbols.map Symbol.address)

/-- With a comma for a default scope too, a row may be a number and commas. The symbols of two
sources have one text and differ in their addresses; the programs of two others have one text. -/
theorem texts_tell_commaRecords :
    ∃ a b c, (analyzeSource { defaultScope := "," } commaRecords).outcome = .ok a ∧
      (analyzeSource { defaultScope := "," } twoProgramRecords).outcome = .ok b ∧
      (analyzeSource { defaultScope := "a,b" } bareProgramRecords).outcome = .ok c ∧
      a.shown = ((["-51, ,, 0, ,", "-52, r, 0.0, p"], ["-55, p, 2, 0"]), [0, 2]) ∧
      a.symbols.symbols.map Symbol.unnumbered = b.symbols.symbols.map Symbol.unnumbered ∧
      a.symbols ≠ b.symbols ∧ a.programs = c.programs ∧ a.programs ≠ b.programs := by
  have runA : ((analyzeSource { defaultScope := "," } commaRecords).outcome >>= fun a =>
      .ok a.shown) = .ok ((["-51, ,, 0, ,", "-52, r, 0.0, p"], ["-55, p, 2, 0"]), [0, 2]) := by
    decide +kernel
  have runB : ((analyzeSource { defaultScope := "," } twoProgramRecords).outcome >>= fun a =>
      .ok a.shown) = .ok ((["-51, ,, 0, ,", "-52, r, 0.0, p"], ["-55, q, 2, 0", "-55, p, 2, 0"]),
        [0, 3]) := by
    decide +kernel
  have runC : ((analyzeSource { defaultScope := "a,b" } bareProgramRecords).outcome >>= fun a =>
      .ok a.shown) = .ok (([], ["-55, p, 2, 0"]), []) := by
    decide +kernel
  obtain ⟨a, ha, shownA⟩ := except_bind_eq_ok_iff.1 runA
  obtain ⟨b, hb, shownB⟩ := except_bind_eq_ok_iff.1 runB
  obtain ⟨c, hc, shownC⟩ := except_bind_eq_ok_iff.1 runC
  have shownA := Except.ok.inj shownA
  have shownB := Except.ok.inj shownB
  have shownC := Except.ok.inj shownC
  obtain ⟨symbols, addresses⟩ := texts_tell_tables (by decide) (by decide) ha hb
  obtain ⟨-, programs⟩ := texts_tell_tables (by decide) (by decide) ha hc
  simp only [Analysis.shown, Prod.mk.injEq] at shownA shownB shownC
  refine ⟨a, b, c, ha, hb, hc, ?_, symbols.1 ?_, ?_, programs.1 ?_, ?_⟩
  · simp only [Analysis.shown, shownA]
  · rw [shownA.1.1, shownB.1.1]
  · intro same
    have := shownA.2.symm.trans (same ▸ shownB.2)
    simp at this
  · rw [shownA.1.2, shownC.1.2]
  · intro same
    have texts := addresses.2 same
    rw [shownA.1.2, shownB.1.2] at texts
    exact absurd texts (by decide +kernel)

end Pseudocode
