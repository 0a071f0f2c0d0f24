/-
  Pseudocode.CommandLine.Run — a run of the program, from its arguments to its exit code.

  A run reads the input, analyses it, says on standard output what it counted, and writes the
  tables. It ends with exit code 1 and a message on standard error when the input cannot be read,
  when the analysis finds a fault (which is shown with an excerpt first) or when the tables cannot
  be written. Arguments that cannot be read end it with exit code 2. Nothing is written unless the
  analysis succeeds.

  - `examine_snd`: the result that a run goes by is that of the source alone, whatever is shown.
-/

import Pseudocode.CommandLine.Options
import Pseudocode.Output.TokenDump
import Pseudocode.Output.Writer
import Pseudocode.Report.Excerpt

namespace Pseudocode

/-- What a run leaves besides files. -/
structure Outcome where
  exit : Nat
  stdout : String
  stderr : String
  deriving DecidableEq, Repr

/-- The answer to a request for the version. -/
def versionText : String := "psema 0.1.0\n"

/-- What a run ends with that stops at its arguments. Its help and its complaints about arguments
are texts of whatever reads the arguments, and left out here. -/
def Stop.outcome : Stop → Outcome
  | .help => ⟨0, "", ""⟩
  | .version => ⟨0, versionText, ""⟩
  | _ => ⟨2, "", ""⟩

/-- Whether events of a level are shown. -/
def Level.shownAt (verbosity : Nat) : Level → Bool
  | .trace => 2 ≤ verbosity
  | _ => 1 ≤ verbosity

/-- The events that are shown, one to a line. -/
def showEvents (verbosity : Nat) (events : List Event) : String :=
  String.join ((events.filter (·.level.shownAt verbosity)).map fun e =>
    s!"[{e.level.name}] {e.message}\n")

/-- The line that says what an analysis counted. -/
def Analysis.summary (a : Analysis) : String :=
  s!"semantic analysis complete: {a.tally.tokens} tokens, {a.symbols.symbols.length} symbols, " ++
    s!"{a.tally.references} references, {a.tally.assignments} assignments, " ++
    s!"{a.tally.conditions} conditions\n"

/-- Reads and analyses a source; besides the result, what is shown on the way. -/
def examine (options : Options) (source : String) : String × Except Fault Analysis :=
  let reading := readTokens source
  let readEvents := showEvents options.verbosity reading.events
  match reading.outcome with
  | .error fault => (readEvents, .error fault)
  | .ok tokens =>
    let analysis := analyze options.settings tokens
    let dump := if options.dumpTokens then dumpTokens tokens else ""
    (readEvents ++ dump ++ showEvents options.verbosity analysis.events, analysis.outcome)

/-- Reads and analyses a source. -/
def analyzeSource (settings : Settings) (source : String) : Traced Analysis :=
  readTokens source >>= analyze settings

theorem outcome_analyzeSource (settings : Settings) (source : String) :
    (analyzeSource settings source).outcome =
      (readTokens source).outcome >>= fun tokens => (analyze settings tokens).outcome :=
  Traced.outcome_bind _ _

theorem outcome_analyzeSource_eq_ok_iff {settings : Settings} {source : String} {a : Analysis} :
    (analyzeSource settings source).outcome = .ok a ↔
      ∃ tokens, (readTokens source).outcome = .ok tokens ∧
        (analyze settings tokens).outcome = .ok a := by
  rw [outcome_analyzeSource]
  exact except_bind_eq_ok_iff

theorem examine_snd (options : Options) (source : String) :
    (examine options source).2 = (analyzeSource options.settings source).outcome := by
  rw [outcome_analyzeSource]
  simp only [examine]
  cases (readTokens source).outcome with
  | error fault => rfl
  | ok tokens => rfl

variable {m : Type → Type} [Monad m] [Disk m]

/-- The text of the input, or why it cannot be read. -/
def readSource (input : Path) : m (Except DiskFault String) := do
  match ← Disk.read input with
  | .error fault => pure (.error fault)
  | .ok bytes =>
    match String.fromUTF8? bytes with
    | none => pure (.error .notText)
    | some source => pure (.ok source)

/-- Writes the tables of a successful analysis and ends the run. -/
def finish (options : Options) (shown : String) (analysis : Analysis) : m Outcome := do
  if options.check then
    pure ⟨0, analysis.summary, shown⟩
  else
    match ← writeTables options.format options.outDir analysis with
    | .ok _ => pure ⟨0, analysis.summary, shown⟩
    | .error fault =>
      let message := (Fault.io fault.message).message
      pure ⟨1, analysis.summary, shown ++ s!"error: {message}: {fault.message}\n"⟩

/-- A run with options. -/
def runWith (options : Options) : m Outcome := do
  let path := options.input.text
  match ← readSource options.input with
  | .error fault =>
    pure ⟨1, "", s!"error: cannot read token records from {path}: {fault.message}\n"⟩
  | .ok source =>
    match examine options source with
    | (shown, .error fault) =>
      let excerpt := fault.render [⟨path, source⟩] 0
      pure ⟨1, "", shown ++ excerpt ++
        s!"error: semantic analysis of {path} failed: {fault.message}\n"⟩
    | (shown, .ok analysis) => finish options shown analysis

/-- A run with arguments. -/
def run (args : List String) : m Outcome :=
  match Options.ofArguments args with
  | .error stop => pure stop.outcome
  | .ok options => runWith options

end Pseudocode
