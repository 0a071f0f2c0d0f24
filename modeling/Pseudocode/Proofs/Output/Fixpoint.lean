/-
  Pseudocode.Proofs.Output.Fixpoint — the token table of a result, analysed again.

  The token table of a successful analysis is a record file. Read again it gives the stream, with
  the addresses that it shows for positions; that stream is like the analysed one, so it gets the
  same verdict, tables and counts, and resolving its identifiers again shows the same addresses
  (`annotate_reread`). Resolving them a second time without writing them changes nothing at all
  (`annotate_annotate`).

  Proved:
  (1) The tokens of a result are those of the stream, resolved by the table that the result has
      (`tokens_of_outcome_analyze`), and can be written whenever the stream was read
      (`Token.Writable.annotated`).
  (2) Tokens that show the same are the same row and the same JSON value (`Token.ShowsAs`).
  (3) A source that is analysed without a fault and the token table of its result have the same
      tables, the same document and the same counts, and the tokens of a result have that result
      (`tokenTable_is_fixpoint`).
-/

import Pseudocode.CommandLine.Run
import Pseudocode.Proofs.Check.Alike
import Pseudocode.Proofs.Output.Reread

namespace Pseudocode

/-! ## What a token shows -/

/-- Two tokens that have the same row. -/
structure Token.ShowsAs (t u : Token) : Prop where
  kind : t.kind = u.kind
  lexeme : t.lexeme = u.lexeme
  tableIndex : t.tableIndex = u.tableIndex
  line : t.line = u.line

theorem Token.ShowsAs.row {t u : Token} (h : t.ShowsAs u) : t.row = u.row := by
  rw [Token.row, Token.row, h.kind, h.lexeme, h.tableIndex, h.line]

theorem Token.ShowsAs.json {t u : Token} (h : t.ShowsAs u) : t.json = u.json := by
  rw [Token.json, Token.json, h.kind, h.lexeme, h.tableIndex, h.line]

/-! ## Resolving twice -/

section Annotate

variable (symbols : SymbolTable) (t : Token)

/-- An identifier that is known gets an address, and any other token stays as it is. -/
theorem annotate_cases :
    (∃ address, t.isIdentifier = true ∧ symbols.addressOf? t.lexeme = some address ∧
      annotate symbols t = t.resolve address) ∨
    (t.isIdentifier = false ∨ symbols.addressOf? t.lexeme = none) ∧ annotate symbols t = t := by
  cases hid : t.isIdentifier with
  | false => exact .inr ⟨.inl rfl, annotate_of_not_identifier hid⟩
  | true =>
    cases ha : symbols.addressOf? t.lexeme with
    | some address => exact .inl ⟨address, rfl, rfl, annotate_of_addressOf? hid ha⟩
    | none => exact .inr ⟨.inr rfl, by simp [annotate, ha]⟩

theorem annotate_annotate : annotate symbols (annotate symbols t) = annotate symbols t := by
  rcases annotate_cases symbols t with ⟨address, hid, ha, e⟩ | ⟨-, e⟩
  · rw [e]
    exact annotate_of_addressOf? hid ha
  · rw [e, e]

theorem bare_annotate : (annotate symbols t).bare = t.bare := by
  rcases annotate_cases symbols t with ⟨address, -, -, e⟩ | ⟨-, e⟩
  · rw [e]
    rfl
  · rw [e]

/-- A token that was resolved, written and read again shows the same address when it is resolved
again. -/
theorem annotate_reread (span : Span) :
    (annotate symbols ((annotate symbols t).reread span)).ShowsAs (annotate symbols t) := by
  rcases annotate_cases symbols t with ⟨address, hid, ha, e⟩ | ⟨unknown, e⟩
  · rw [e]
    have again : annotate symbols ((t.resolve address).reread span) =
        ((t.resolve address).reread span).resolve address := annotate_of_addressOf? hid ha
    rw [again]
    exact ⟨rfl, rfl, rfl, rfl⟩
  · rw [e]
    have again : annotate symbols (t.reread span) = t.reread span := by
      rcases unknown with hid | ha
      · exact annotate_of_not_identifier hid
      · have ha' : symbols.addressOf? (t.reread span).lexeme = none := ha
        simp [annotate, ha']
    rw [again]
    exact ⟨rfl, rfl, rfl, rfl⟩

theorem Token.Writable.annotated {t : Token} (h : t.Writable) :
    (annotate symbols t).Writable := by
  rcases annotate_cases symbols t with ⟨address, -, -, e⟩ | ⟨-, e⟩
  · rw [e]
    exact h.resolve address
  · rw [e]
    exact h

end Annotate

/-! ## Analysing again -/

section Again

variable {settings : Settings} {tokens again : List Token} {a : Analysis}

/-- The tokens of a result are those of the stream, resolved by the table of the result. -/
theorem tokens_of_outcome_analyze (h : (analyze settings tokens).outcome = .ok a) :
    a.tokens = tokens.map (annotate a.symbols) := by
  obtain ⟨m, -, -, rfl⟩ := outcome_analyze_eq_ok_iff.1 h
  rfl

theorem alike_annotate (symbols : SymbolTable) (tokens : List Token) :
    Alike tokens (tokens.map (annotate symbols)) := by
  rw [Alike, List.map_map]
  apply List.map_congr_left
  intro t _
  exact (bare_annotate symbols t).symm

/-- The token table of a result, read again, is like the stream. -/
theorem alike_of_reread {symbols : SymbolTable}
    (h : Rereads (tokens.map (annotate symbols)) again) :
    Alike tokens again := by
  have bare : (tokens.map (annotate symbols)).map Token.bare = again.map Token.bare := by
    apply map_eq_map_of_forall₂ h
    rintro t u ⟨span, rfl⟩
    rfl
  exact (alike_annotate symbols tokens).trans bare

/-- The tokens of a table that was read again are resolved to tokens that show the same. -/
theorem map_annotate_of_reread {α : Type} {symbols : SymbolTable} {f : Token → α}
    (shown : ∀ t u : Token, t.ShowsAs u → f t = f u)
    (h : Rereads (tokens.map (annotate symbols)) again) :
    (again.map (annotate symbols)).map f = (tokens.map (annotate symbols)).map f := by
  rw [Rereads, List.forall₂_map_left_iff] at h
  rw [List.map_map, List.map_map]
  symm
  apply map_eq_map_of_forall₂ h
  rintro t u ⟨span, rfl⟩
  exact (shown _ _ (annotate_reread symbols t span)).symm

end Again

/-- The token table of a result has that result: read and analysed again it gives the same tables,
the same document and the same counts. The tokens of a result, analysed again, give the result
itself. -/
theorem tokenTable_is_fixpoint (settings : Settings) :
    (∀ source a, (analyzeSource settings source).outcome = .ok a →
      ∃ b, (analyzeSource settings (renderRows a.tables.tokens)).outcome = .ok b ∧
        b.tables = a.tables ∧ b.document = a.document ∧ b.tally = a.tally) ∧
    ∀ tokens a, (analyze settings tokens).outcome = .ok a →
      (analyze settings a.tokens).outcome = .ok a := by
  constructor
  · intro source a h
    obtain ⟨tokens, read, h⟩ := outcome_analyzeSource_eq_ok_iff.1 h
    have resolved := tokens_of_outcome_analyze h
    have writable : ∀ t ∈ a.tokens, t.Writable := by
      rw [resolved]
      intro u mem
      obtain ⟨t, inTokens, rfl⟩ := List.mem_map.1 mem
      exact (writable_of_readTokens read inTokens).annotated a.symbols
    obtain ⟨again, reread, same⟩ := readTokens_renderRows writable
    rw [resolved] at same
    have rows := map_annotate_of_reread (fun t u => Token.ShowsAs.row) same
    have values := map_annotate_of_reread (fun t u => Token.ShowsAs.json) same
    rw [← resolved] at rows values
    refine ⟨{ a with tokens := again.map (annotate a.symbols) }, ?_, ?_, ?_, rfl⟩
    · exact outcome_analyzeSource_eq_ok_iff.2
        ⟨again, reread, outcome_analyze_of_alike (alike_of_reread same) h⟩
    · simp only [Analysis.tables, rows]
    · simp only [Analysis.document, Analysis.json, values]
  · intro tokens a h
    have resolved := tokens_of_outcome_analyze h
    have again := outcome_analyze_of_alike (alike_annotate a.symbols tokens) h
    have unchanged : (tokens.map (annotate a.symbols)).map (annotate a.symbols) =
        tokens.map (annotate a.symbols) := by
      rw [List.map_map]
      apply List.map_congr_left
      intro t _
      exact annotate_annotate a.symbols t
    rw [unchanged, ← resolved] at again
    exact again

/-- Names a program, declares a variable and assigns to it, in records with odd blanks and
positions. -/
def counterSource : String :=
  "\n-55,demo , 90, 1\r\n-51, n, -2, 2\n-11,int,-1,2\n-75, ; ,-1,2\n -2, begin, -1, 3\n" ++
  "-51, n, 7, 4\n-26, =, -1, 4\n-61, 5, -1, 4\n-75, ;, -1, 4"

/-- The token table of its result. -/
def counterTable : String :=
  "-55, demo, 0, 1\n-51, n, 1, 2\n-11, int, -1, 2\n-75, ;, -1, 2\n-2, begin, -1, 3\n" ++
  "-51, n, 1, 4\n-26, =, -1, 4\n-61, 5, -1, 4\n-75, ;, -1, 4\n"

/-- The table shows addresses where the source has positions, and from then on it is what it
gives. -/
theorem counterTable_is_fixpoint :
    ∃ a b, (analyzeSource {} counterSource).outcome = .ok a ∧
      renderRows a.tables.tokens = counterTable ∧
      (analyzeSource {} counterTable).outcome = .ok b ∧
      b.tables = a.tables ∧ b.document = a.document ∧ b.tally = a.tally ∧
      (analyze {} a.tokens).outcome = .ok a := by
  have table : (analyzeSource {} counterSource).outcome.map (renderRows ·.tables.tokens) =
      .ok counterTable := by
    decide +kernel
  obtain ⟨written, unchanged⟩ := tokenTable_is_fixpoint {}
  cases h : (analyzeSource {} counterSource).outcome with
  | error fault =>
    rw [h] at table
    cases table
  | ok a =>
    rw [h] at table
    have table : renderRows a.tables.tokens = counterTable := Except.ok.inj table
    obtain ⟨b, again, tables, document, tally⟩ := written counterSource a h
    obtain ⟨tokens, -, analysed⟩ := outcome_analyzeSource_eq_ok_iff.1 h
    rw [table] at again
    exact ⟨a, b, rfl, table, again, tables, document, tally, unchanged tokens a analysed⟩

end Pseudocode
