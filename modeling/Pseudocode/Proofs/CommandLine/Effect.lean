/-
  Pseudocode.Proofs.CommandLine.Effect — what a run leaves behind.

  Arguments select options, and a run goes by these alone. It reads its input and analyses it, and
  neither changes anything. It ends there if one of them fails, or if the tables are not wanted.
  Otherwise it does one thing to the tree, which is to write the tables, and its exit code tells
  whether that succeeded. The line on standard output is there once the analysis has succeeded,
  whatever becomes of the tables, and counts what the analysis counted.

  What a run shows on standard error, its tokens and its events, comes on top. Nothing that a run
  leaves otherwise depends on it.

  Proved:
  (1) An input either gives an analysis or refuses to (`Tree.accepts_or_refuses`).
  (2) A run ends at an input that gives none and goes on to its end at one that does
      (`runWith_of_refuses`, `runWith_of_accepts`); so the effect of a run is nothing, or that of
      its analysis (`effect_of_refuses`, `effect_of_accepts`).
  (3) Showing the tokens is no part of it (`effect_of_dumpTokens`).
  (4) What an analysis is summed up in is one line, with its counts (`Analysis.summary_eq`,
      `Analysis.newline_not_mem_completion`).
  (5) The effect of a run, for every tree and all arguments that are accepted, by the options that
      they select (`run_effect`).
-/

import Mathlib.Data.List.Basic
import Pseudocode.CommandLine.Run
import Pseudocode.Proofs.CommandLine.Selection
import Pseudocode.Proofs.Output.Calls

namespace Pseudocode

/-! ## Inputs -/

/-- The text of a file, if it can be read and is text. -/
def Tree.text? (t : Tree) (path : Path) : Option String :=
  (t.read path).toOption.bind String.fromUTF8?

/-- The input that options name is read and analysed without a fault. -/
def Tree.Accepts (t : Tree) (options : Options) (a : Analysis) : Prop :=
  ∃ source tokens, t.text? options.input = some source ∧
    (readTokens source).outcome = .ok tokens ∧ (analyze options.settings tokens).outcome = .ok a

/-- The input that options name cannot be read as text, or it holds a record that cannot be read,
or its analysis finds a fault. -/
def Tree.Refuses (t : Tree) (options : Options) : Prop :=
  t.text? options.input = none ∨
    ∃ source, t.text? options.input = some source ∧
      ((∃ fault, (readTokens source).outcome = .error fault) ∨
        ∃ tokens fault, (readTokens source).outcome = .ok tokens ∧
          (analyze options.settings tokens).outcome = .error fault)

theorem Tree.accepts_or_refuses (t : Tree) (options : Options) :
    (∃ a, t.Accepts options a) ∨ t.Refuses options := by
  cases text : t.text? options.input with
  | none => exact .inr (.inl text)
  | some source =>
    cases read : (readTokens source).outcome with
    | error fault => exact .inr (.inr ⟨source, text, .inl ⟨fault, read⟩⟩)
    | ok tokens =>
      cases analysed : (analyze options.settings tokens).outcome with
      | error fault => exact .inr (.inr ⟨source, text, .inr ⟨tokens, fault, read, analysed⟩⟩)
      | ok a => exact .inl ⟨a, source, tokens, text, read, analysed⟩

/-! ## Stages -/

section Stages

variable {t : Tree} {options : Options} {a : Analysis}

/-- Reading an input gives its text or tells why there is none, and leaves the tree alone. -/
theorem run_readSource (t : Tree) (input : Path) :
    ∃ result, (readSource input : StateM Tree (Except DiskFault String)).run t = (result, t) ∧
      result.toOption = t.text? input := by
  unfold readSource Tree.text?
  rw [run_bind, run_read]
  simp only
  cases t.read input with
  | error fault => exact ⟨_, rfl, rfl⟩
  | ok bytes =>
    simp only [Except.toOption, Option.bind_some]
    cases String.fromUTF8? bytes with
    | none => exact ⟨_, rfl, rfl⟩
    | some source => exact ⟨_, rfl, rfl⟩

/-- A run ends at an input that gives no analysis. -/
theorem runWith_of_refuses (h : t.Refuses options) :
    ∃ message, (runWith options : StateM Tree Outcome).run t = (⟨1, "", message⟩, t) := by
  obtain ⟨result, read, text⟩ := run_readSource t options.input
  unfold runWith
  rw [run_bind, read]
  cases result with
  | error fault => exact ⟨_, rfl⟩
  | ok source =>
    have refused : ∃ fault, (analyzeSource options.settings source).outcome = .error fault := by
      rw [outcome_analyzeSource]
      rcases h with none | ⟨source', some, ⟨fault, read⟩ | ⟨tokens, fault, read, analysed⟩⟩
      · cases text.trans none
      · cases text.trans some
        exact ⟨fault, by rw [read]; rfl⟩
      · cases text.trans some
        exact ⟨fault, by rw [read]; exact analysed⟩
    obtain ⟨fault, refused⟩ := refused
    rw [← examine_snd] at refused
    simp only
    split
    · exact ⟨_, rfl⟩
    · rename_i examined
      rw [examined] at refused
      cases refused

/-- A run goes on to its end at an input that gives an analysis. -/
theorem runWith_of_accepts (h : t.Accepts options a) :
    ∃ shown, (runWith options : StateM Tree Outcome).run t =
      (finish options shown a : StateM Tree Outcome).run t := by
  obtain ⟨source, tokens, text, read, analysed⟩ := h
  have accepted : (examine options source).2 = .ok a := by
    rw [examine_snd]
    exact outcome_analyzeSource_eq_ok_iff.2 ⟨tokens, read, analysed⟩
  obtain ⟨result, reading, same⟩ := run_readSource t options.input
  unfold runWith
  rw [run_bind, reading]
  rw [text] at same
  cases result with
  | error fault => cases same
  | ok source' =>
    cases same
    simp only
    split
    · rename_i examined
      rw [examined] at accepted
      cases accepted
    · rename_i shown analysis examined
      rw [examined] at accepted
      cases accepted
      exact ⟨shown, rfl⟩

end Stages

/-! ## Effects -/

/-- What a run leaves, apart from what it shows on standard error. -/
structure Effect where
  exit : Nat
  stdout : String
  tree : Tree

/-- What a program leaves that ends with an outcome. -/
def Tree.effectOf (t : Tree) (program : StateM Tree Outcome) : Effect :=
  ⟨(program.run t).1.exit, (program.run t).1.stdout, (program.run t).2⟩

/-- What a run with arguments leaves. -/
def Tree.effect (t : Tree) (args : List String) : Effect := t.effectOf (run args)

/-- What is left when an analysis has succeeded: the tree as it is, or with the tables written. -/
def Tree.effectWith (t : Tree) (options : Options) (a : Analysis) : Effect :=
  if options.check then ⟨0, a.summary, t⟩
  else
    match t.replaceTables options.format options.outDir a with
    | (.ok _, after) => ⟨0, a.summary, after⟩
    | (.error _, after) => ⟨1, a.summary, after⟩

section Effects

variable {t : Tree} {options : Options} {a : Analysis}

theorem effectOf_finish (shown : String) :
    t.effectOf (finish options shown a) = t.effectWith options a := by
  unfold Tree.effectWith finish
  cases options.check with
  | true => rfl
  | false =>
    simp only [Bool.false_eq_true, if_false]
    unfold Tree.effectOf Tree.replaceTables
    rw [run_bind]
    generalize (writeTables options.format options.outDir a :
      StateM Tree (Except DiskFault (List Path))).run t = written
    obtain ⟨result, after⟩ := written
    cases result with
    | ok paths => rfl
    | error fault => rfl

variable {args : List String} (selected : Selects args options)

include selected

theorem effect_eq : t.effect args = t.effectOf (runWith options) := by
  unfold Tree.effect run
  rw [ofArguments_eq_ok_iff.2 selected]

theorem effect_of_refuses (h : t.Refuses options) : t.effect args = ⟨1, "", t⟩ := by
  obtain ⟨message, ends⟩ := runWith_of_refuses h
  rw [effect_eq selected, Tree.effectOf, ends]

theorem effect_of_accepts (h : t.Accepts options a) :
    t.effect args = t.effectWith options a := by
  obtain ⟨shown, ends⟩ := runWith_of_accepts h
  rw [effect_eq selected, ← effectOf_finish shown, Tree.effectOf, Tree.effectOf, ends]

end Effects

/-- Showing the tokens makes no difference. -/
theorem effect_of_dumpTokens {t : Tree} {options : Options} {args others : List String}
    {shown : Bool} (selected' : Selects others { options with dumpTokens := shown })
    (selected : Selects args options) : t.effect others = t.effect args := by
  rcases t.accepts_or_refuses options with ⟨a, ok⟩ | no
  · have ok' : t.Accepts { options with dumpTokens := shown } a := ok
    rw [effect_of_accepts selected ok, effect_of_accepts selected' ok']
    rfl
  · have no' : t.Refuses { options with dumpTokens := shown } := no
    rw [effect_of_refuses selected no, effect_of_refuses selected' no']

/-! ## The completion line -/

/-- What an analysis counts, each count with its name. -/
def Analysis.counts (a : Analysis) : List (Nat × String) :=
  [(a.tally.tokens, "tokens"), (a.symbols.symbols.length, "symbols"),
    (a.tally.references, "references"), (a.tally.assignments, "assignments"),
    (a.tally.conditions, "conditions")]

/-- The line that says what an analysis counted, without its end. -/
def Analysis.completion (a : Analysis) : String :=
  "semantic analysis complete: " ++
    ", ".intercalate (a.counts.map fun count => toString count.1 ++ " " ++ count.2)

theorem Analysis.summary_eq (a : Analysis) : a.summary = a.completion ++ "\n" := by
  unfold Analysis.summary Analysis.completion Analysis.counts
  simp only [List.map_cons, List.map_nil, String.intercalate_cons_cons,
    String.intercalate_singleton, String.append_assoc]
  rfl

theorem not_mem_intercalate {c : Char} {between : String} {pieces : List String}
    (hb : c ∉ between.toList) (hp : ∀ piece ∈ pieces, c ∉ piece.toList) :
    c ∉ (between.intercalate pieces).toList := by
  induction pieces with
  | nil => simp
  | cons piece more ih =>
    rw [List.forall_mem_cons] at hp
    cases more with
    | nil => rw [String.intercalate_singleton]; exact hp.1
    | cons next last =>
      rw [String.intercalate_cons_cons, String.toList_append, String.toList_append,
        List.mem_append, List.mem_append, not_or, not_or]
      exact ⟨⟨hp.1, hb⟩, ih hp.2⟩

/-- No count and no name of one holds a newline. -/
theorem Analysis.newline_not_mem_completion (a : Analysis) : '\n' ∉ a.completion.toList := by
  have names : ∀ name ∈ a.counts.map Prod.snd, '\n' ∉ name.toList := by
    show ∀ name ∈ ["tokens", "symbols", "references", "assignments", "conditions"],
      '\n' ∉ name.toList
    decide
  have pieces : ∀ piece ∈ a.counts.map fun count => toString count.1 ++ " " ++ count.2,
      '\n' ∉ piece.toList := by
    rintro piece mem
    obtain ⟨count, counted, rfl⟩ := List.mem_map.1 mem
    rw [String.toList_append, String.toList_append, List.mem_append, List.mem_append, not_or,
      not_or]
    exact ⟨⟨Text.newline_not_mem_toString _, by decide⟩, names _ (List.mem_map_of_mem counted)⟩
  unfold Analysis.completion
  rw [String.toList_append, List.mem_append, not_or]
  exact ⟨by decide, not_mem_intercalate (by decide) pieces⟩

/-! ## Runs -/

/-- What a run on a tree leaves, with arguments that select `options`. It is all or nothing. At an
input that gives no analysis it ends with exit code 1, leaves standard output empty and changes
nothing. At an input that gives one it prints the completion line; it writes the tables unless it
only checks, and ends with exit code 0 exactly if that succeeds. Showing the tokens makes no
difference, whichever arguments ask for it. A request for it may stand in front of the others
unless they make one too. -/
structure RunLaw (t : Tree) (args : List String) (options : Options) : Prop where
  decided : (∃ a, t.Accepts options a) ∨ t.Refuses options
  refused : t.Refuses options → t.effect args = ⟨1, "", t⟩
  checked : ∀ a, t.Accepts options a → options.check = true →
    t.effect args = ⟨0, a.completion ++ "\n", t⟩
  written : ∀ a, t.Accepts options a → options.check = false →
    ∃ exit, t.effect args =
        ⟨exit, a.completion ++ "\n", (t.replaceTables options.format options.outDir a).2⟩ ∧
      exit ≤ 1 ∧
      (exit = 0 ↔ ∃ paths, (t.replaceTables options.format options.outDir a).1 = .ok paths)
  line : ∀ a, t.Accepts options a → '\n' ∉ a.completion.toList
  shown : ∀ others shown, Selects others { options with dumpTokens := shown } →
    t.effect others = t.effect args
  asked : ∀ options', Selects ("--dump-tokens" :: args) options' ↔
    options.dumpTokens = false ∧ options' = { options with dumpTokens := true }

/-- The arguments that are accepted are those that select options, and what a run on a tree leaves
is decided by the options that they select. -/
theorem run_effect (args : List String) (t : Tree) :
    (∀ options, Options.ofArguments args = .ok options ↔ Selects args options) ∧
      ∀ options, Selects args options → RunLaw t args options := by
  refine ⟨fun options => ofArguments_eq_ok_iff, fun options selected => ?_⟩
  constructor
  case decided => exact t.accepts_or_refuses options
  case refused => exact effect_of_refuses selected
  case checked =>
    intro a ok check
    rw [effect_of_accepts selected ok, Tree.effectWith, if_pos check, a.summary_eq]
  case written =>
    intro a ok check
    rw [effect_of_accepts selected ok, Tree.effectWith, if_neg (by simp [check]), a.summary_eq]
    generalize t.replaceTables options.format options.outDir a = written
    obtain ⟨result, after⟩ := written
    cases result with
    | ok paths => exact ⟨0, rfl, by simp⟩
    | error fault => exact ⟨1, rfl, by simp⟩
  case line => exact fun a _ => a.newline_not_mem_completion
  case shown => exact fun others shown selected' => effect_of_dumpTokens selected' selected
  case asked =>
    intro options'
    rw [selects_dumpTokens_iff]
    constructor
    · rintro ⟨set, behind⟩
      cases selected.unique behind
      exact ⟨rfl, by rw [← set]⟩
    · rintro ⟨unset, rfl⟩
      refine ⟨rfl, ?_⟩
      rw [← unset]
      exact selected

/-- A declaration in Spanish, and an assignment that fits it by the first statement alone. -/
def spanishSource : String :=
  "-51, n, -2, 1\n-11, entero, -1, 1\n-75, ;, -1, 1\n-2, begin, -1, 2\n" ++
  "-51, n, -2, 3\n-26, =, -1, 3\n-63, uno, -1, 3\n-75, ;, -1, 3\n"

def spanishTokens : List Token :=
  [⟨.intId, "n", 1, -2, none, ⟨0, 13⟩⟩, ⟨.intKw, "entero", 1, -1, none, ⟨14, 32⟩⟩,
    ⟨.semicolon, ";", 1, -1, none, ⟨33, 46⟩⟩, ⟨.beginKw, "begin", 2, -1, none, ⟨47, 63⟩⟩,
    ⟨.intId, "n", 3, -2, none, ⟨64, 77⟩⟩, ⟨.assign, "=", 3, -1, none, ⟨78, 91⟩⟩,
    ⟨.stringConst, "uno", 3, -1, none, ⟨92, 107⟩⟩, ⟨.semicolon, ";", 3, -1, none, ⟨108, 121⟩⟩]

def spanishAnalysis (scope : String) : Analysis :=
  { tokens := spanishTokens.map fun t => if t.isIdentifier then t.resolve 0 else t
    symbols := ⟨[⟨.intId, "n", "0", scope, 0⟩], [("n", 0)]⟩
    programs := .empty
    tally := ⟨8, 1, 1, 1, 0⟩ }

/-- A program, and a directory with tables of both formats and another file. -/
def projectTree : Tree :=
  { root := .directory
      [("programa", .file spanishSource.toUTF8),
        ("out", .directory [("tokensTable.txt", .file "-2, begin, -1, 9\n".toUTF8),
          ("tables.json", .file "[]".toUTF8), ("notes", .file "".toUTF8)])]
    working := [] }

theorem completion_spanishAnalysis (scope : String) :
    (spanishAnalysis scope).completion ++ "\n" = "semantic analysis complete: " ++
      "8 tokens, 1 symbols, 1 references, 1 assignments, 0 conditions\n" := by
  have counts : (spanishAnalysis scope).counts =
      [(8, "tokens"), (1, "symbols"), (1, "references"), (1, "assignments"), (0, "conditions")] :=
    rfl
  unfold Analysis.completion
  rw [counts]
  decide +kernel

section Project

variable {options : Options}

theorem projectTree_program : projectTree.text? ⟨"programa"⟩ = some spanishSource := by
  decide +kernel

theorem spanishSource_read : (readTokens spanishSource).outcome = .ok spanishTokens := by
  decide +kernel

theorem projectTree_accepts {scope : String} (input : options.input = ⟨"programa"⟩)
    (settings : options.settings = ⟨.spanish, .leading, scope⟩) :
    projectTree.Accepts options (spanishAnalysis scope) := by
  refine ⟨spanishSource, spanishTokens, ?_, spanishSource_read, ?_⟩
  · rw [input]
    exact projectTree_program
  · rw [settings]
    rfl

theorem projectTree_refuses (input : options.input = ⟨"programa"⟩) {fault : Fault}
    (refused : (analyze options.settings spanishTokens).outcome = .error fault) :
    projectTree.Refuses options := by
  refine .inr ⟨spanishSource, ?_, .inr ⟨spanishTokens, fault, spanishSource_read, refused⟩⟩
  rw [input]
  exact projectTree_program

/-- The analysis of the table of tokens in `projectTree`. -/
def tableAnalysis : Analysis :=
  { tokens := [⟨.beginKw, "begin", 9, -1, none, ⟨0, 16⟩⟩]
    symbols := .empty
    programs := .empty
    tally := { tokens := 1 } }

theorem completion_tableAnalysis :
    tableAnalysis.completion ++ "\n" = "semantic analysis complete: " ++
      "1 tokens, 0 symbols, 0 references, 0 assignments, 0 conditions\n" := by
  decide +kernel

theorem projectTree_accepts_table (input : options.input = ⟨"out/tokensTable.txt"⟩)
    (settings : options.settings = {}) : projectTree.Accepts options tableAnalysis := by
  refine ⟨"-2, begin, -1, 9\n", tableAnalysis.tokens, ?_, ?_, ?_⟩
  · rw [input]
    decide +kernel
  · decide +kernel
  · rw [settings]
    rfl

end Project

/-- An input that is missing changes nothing. Nor does the program, unless it is read in Spanish and
judged by its first statement; then it is checked, or its tables are written, with the scope that is
asked for. A table that is the input itself is replaced with all others, whether or not the tokens
are shown. -/
theorem projectTree_effect :
    projectTree.effect ["-o", "out", "absent"] = ⟨1, "", projectTree⟩ ∧
      projectTree.effect ["-o", "out", "programa"] = ⟨1, "", projectTree⟩ ∧
      projectTree.effect ["-o", "out", "--dialect", "spanish", "programa"] =
        ⟨1, "", projectTree⟩ ∧
      projectTree.effect ["-o", "out", "--legacy-assignment-scan", "programa"] =
        ⟨1, "", projectTree⟩ ∧
      projectTree.effect ["-d=spanish", "--legacy-assignment-scan", "--check", "programa"] =
        ⟨0, "semantic analysis complete: " ++
          "8 tokens, 1 symbols, 1 references, 1 assignments, 0 conditions\n", projectTree⟩ ∧
      (∃ after, projectTree.effect ["-vo", "out", "programa", "--default-scope=Raiz",
            "--legacy-assignment-scan", "--dialect=spanish"] =
          ⟨0, "semantic analysis complete: " ++
            "8 tokens, 1 symbols, 1 references, 1 assignments, 0 conditions\n", after⟩ ∧
        after.view? ["out", "symbolTable.txt"] = some (.file "-51, n, 0, Raiz\n".toUTF8) ∧
        after.view? ["out", "tables.json"] = none) ∧
      ∃ after, projectTree.effect ["-o", "out", "-f", "json", "out/tokensTable.txt"] =
          ⟨0, "semantic analysis complete: " ++
            "1 tokens, 0 symbols, 0 references, 0 assignments, 0 conditions\n", after⟩ ∧
        projectTree.effect ["--dump-tokens", "-o", "out", "-f", "json", "out/tokensTable.txt"] =
          projectTree.effect ["-o", "out", "-f", "json", "out/tokensTable.txt"] ∧
        after.view? ["out", "tokensTable.txt"] = none ∧
        after.view? ["out", "notes"] = some (.file "".toUTF8) := by
  have selects {args : List String} {options : Options}
      (accepted : Options.ofArguments args = .ok options) : Selects args options :=
    ((run_effect args projectTree).1 options).1 accepted
  have law {args : List String} {options : Options}
      (accepted : Options.ofArguments args = .ok options) : RunLaw projectTree args options :=
    (run_effect args projectTree).2 options (selects accepted)
  have leads : Path.LeadsToTables ⟨"out"⟩ ["out"] :=
    ⟨⟨by decide, by decide, by decide⟩, by decide⟩
  have can : projectTree.CanReplace (projectTree.working ++ ["out"]) :=
    ⟨Node.open_of_directory (by decide), by decide⟩
  have toMissing : Options.ofArguments ["-o", "out", "absent"] =
      .ok { input := ⟨"absent"⟩, outDir := ⟨"out"⟩ } := rfl
  have toProgram : Options.ofArguments ["-o", "out", "programa"] =
      .ok { input := ⟨"programa"⟩, outDir := ⟨"out"⟩ } := rfl
  have inSpanish : Options.ofArguments ["-o", "out", "--dialect", "spanish", "programa"] =
      .ok { input := ⟨"programa"⟩, outDir := ⟨"out"⟩, settings := { dialect := .spanish } } := rfl
  have byLeading : Options.ofArguments ["-o", "out", "--legacy-assignment-scan", "programa"] =
      .ok { input := ⟨"programa"⟩, outDir := ⟨"out"⟩, settings := { scan := .leading } } := rfl
  have toCheck : Options.ofArguments
        ["-d=spanish", "--legacy-assignment-scan", "--check", "programa"] =
      .ok { input := ⟨"programa"⟩, check := true, settings := ⟨.spanish, .leading, "Main"⟩ } := rfl
  have toWrite : Options.ofArguments ["-vo", "out", "programa", "--default-scope=Raiz",
        "--legacy-assignment-scan", "--dialect=spanish"] =
      .ok { input := ⟨"programa"⟩, outDir := ⟨"out"⟩, settings := ⟨.spanish, .leading, "Raiz"⟩,
            verbosity := 1 } := rfl
  have toRewrite : Options.ofArguments ["-o", "out", "-f", "json", "out/tokensTable.txt"] =
      .ok { input := ⟨"out/tokensTable.txt"⟩, outDir := ⟨"out"⟩, format := .json } := rfl
  have missing := (law toMissing).refused (.inl (by decide +kernel))
  have english := (law toProgram).refused (projectTree_refuses rfl rfl)
  have statement := (law inSpanish).refused (projectTree_refuses rfl rfl)
  have leading := (law byLeading).refused (projectTree_refuses rfl rfl)
  have check := (law toCheck).checked _ (projectTree_accepts rfl rfl) rfl
  refine ⟨missing, english, statement, leading, completion_spanishAnalysis _ ▸ check, ?_, ?_⟩
  · obtain ⟨after, replaced, view⟩ :=
      replaceTables_of_canReplace rfl leads .text (spanishAnalysis "Raiz") can
    obtain ⟨exit, effect, -, succeeds⟩ :=
      (law toWrite).written _ (projectTree_accepts rfl rfl) rfl
    simp only [replaced] at effect succeeds
    obtain rfl : exit = 0 := succeeds.2 ⟨_, rfl⟩
    have row : ((spanishAnalysis "Raiz").files .text).lookup symbolFile =
        some "-51, n, 0, Raiz\n" := by
      decide +kernel
    have table := view.tables symbolFile (by decide)
    rw [row] at table
    exact ⟨after, completion_spanishAnalysis _ ▸ effect, table,
      view.tables documentFile (by decide)⟩
  · obtain ⟨after, replaced, view⟩ := replaceTables_of_canReplace rfl leads .json tableAnalysis can
    obtain ⟨exit, effect, -, succeeds⟩ :=
      (law toRewrite).written _ (projectTree_accepts_table rfl rfl) rfl
    simp only [replaced] at effect succeeds
    obtain rfl : exit = 0 := succeeds.2 ⟨_, rfl⟩
    exact ⟨after, completion_tableAnalysis ▸ effect, (law toRewrite).shown _ true (selects rfl),
      view.tables tokenFile (by decide), view.others ["out", "notes"] (by decide) (by decide)⟩

end Pseudocode
