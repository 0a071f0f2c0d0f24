/-
  Pseudocode.CommandLine.Options — what the arguments ask for.

  Options have a long name, most of them also a letter. The value of a long option follows an
  equals sign or is the next argument; letters may stand together behind one dash, and the rest
  of such an argument, less an equals sign in front of it, is the value of a letter that takes
  one. A separate value does not begin with a dash, unless it is a lone dash. What is no option
  and no value is the input, of which there is at most one; behind `--` nothing is an option.
  No option is given twice, `--verbose` apart.

  Arguments are read from left to right. The first thing wrong refuses them all; a request for
  help or for the version is answered as soon as it is met.
-/

import Pseudocode.Check.Settings
import Pseudocode.Disk.Path
import Pseudocode.Output.Tables

namespace Pseudocode

/-- Options that take a value. -/
inductive Parameter where
  | outDir
  | dialect
  | format
  | defaultScope
  deriving DecidableEq, Repr

/-- Options that take none. -/
inductive Switch where
  | leadingScan
  | check
  | dumpTokens
  | verbose
  | help
  | version
  deriving DecidableEq, Repr

/-- An option. -/
inductive Opt where
  | parameter (p : Parameter)
  | switch (s : Switch)
  deriving DecidableEq, Repr

def Opt.ofName? : String → Option Opt
  | "out-dir" => some (.parameter .outDir)
  | "dialect" => some (.parameter .dialect)
  | "format" => some (.parameter .format)
  | "default-scope" => some (.parameter .defaultScope)
  | "legacy-assignment-scan" => some (.switch .leadingScan)
  | "check" => some (.switch .check)
  | "dump-tokens" => some (.switch .dumpTokens)
  | "verbose" => some (.switch .verbose)
  | "help" => some (.switch .help)
  | "version" => some (.switch .version)
  | _ => none

def Opt.ofLetter? : Char → Option Opt
  | 'o' => some (.parameter .outDir)
  | 'd' => some (.parameter .dialect)
  | 'f' => some (.parameter .format)
  | 'v' => some (.switch .verbose)
  | 'h' => some (.switch .help)
  | 'V' => some (.switch .version)
  | _ => none

/-- What the arguments give, each option where it is given. -/
structure Given where
  input : Option Path := none
  outDir : Option Path := none
  dialect : Option Dialect := none
  format : Option Format := none
  leadingScan : Bool := false
  defaultScope : Option String := none
  check : Bool := false
  dumpTokens : Bool := false
  verbosity : Nat := 0
  deriving DecidableEq, Repr

/-- Why the reading of arguments ends early. -/
inductive Stop where
  | help
  | version
  | unknown (argument : String)
  | repeated (argument : String)
  | missingValue (argument : String)
  | needlessValue (argument : String)
  | badValue (argument : String)
  deriving DecidableEq, Repr

/-- Sets what has not been given yet. -/
def setOnce {α : Type} (shown : String) (old : Option α) (new : α) : Except Stop (Option α) :=
  if old.isSome then .error (.repeated shown) else .ok (some new)

/-- The value that a text stands for. -/
def valueOr {α : Type} (shown : String) : Option α → Except Stop α
  | none => .error (.badValue shown)
  | some a => .ok a

/-- A path is not empty. -/
def pathOf? (text : String) : Option Path := if text.isEmpty then none else some ⟨text⟩

def dialectOf? : String → Option Dialect
  | "english" => some .english
  | "spanish" => some .spanish
  | _ => none

def formatOf? : String → Option Format
  | "text" => some .text
  | "json" => some .json
  | _ => none

namespace Given

/-- Takes an option's value. -/
def setParameter (g : Given) (shown value : String) : Parameter → Except Stop Given
  | .outDir => do
    let outDir ← setOnce shown g.outDir (← valueOr shown (pathOf? value))
    pure { g with outDir }
  | .dialect => do
    let dialect ← setOnce shown g.dialect (← valueOr shown (dialectOf? value))
    pure { g with dialect }
  | .format => do
    let format ← setOnce shown g.format (← valueOr shown (formatOf? value))
    pure { g with format }
  | .defaultScope => do
    let defaultScope ← setOnce shown g.defaultScope value
    pure { g with defaultScope }

/-- Takes an option that has no value. -/
def setSwitch (g : Given) (shown : String) : Switch → Except Stop Given
  | .leadingScan =>
    if g.leadingScan then .error (.repeated shown) else .ok { g with leadingScan := true }
  | .check => if g.check then .error (.repeated shown) else .ok { g with check := true }
  | .dumpTokens =>
    if g.dumpTokens then .error (.repeated shown) else .ok { g with dumpTokens := true }
  | .verbose => .ok { g with verbosity := g.verbosity + 1 }
  | .help => .error .help
  | .version => .error .version

/-- Takes an argument that is no option. -/
def setInput (g : Given) (value : String) : Except Stop Given :=
  match g.input with
  | some _ => .error (.unknown value)
  | none => do
    let input ← valueOr value (pathOf? value)
    pure { g with input := some input }

end Given

/-- An option that waits for its value, and how it was written. -/
abbrev Pending := Option (Parameter × String)

/-- The part of an argument behind an equals sign in front of it. -/
def withoutEquals : List Char → List Char
  | '=' :: rest => rest
  | cs => cs

/-- Reads the letters behind a dash. -/
def readLetters (g : Given) : List Char → Except Stop (Given × Pending)
  | [] => .ok (g, none)
  | letter :: rest =>
    let shown := String.ofList ['-', letter]
    match Opt.ofLetter? letter with
    | none => .error (.unknown shown)
    | some (.switch s) => do readLetters (← g.setSwitch shown s) rest
    | some (.parameter p) =>
      if rest.isEmpty then .ok (g, some (p, shown))
      else do
        let g ← g.setParameter shown (String.ofList (withoutEquals rest)) p
        pure (g, none)

/-- Reads what stands behind two dashes. -/
def readLong (g : Given) (text : List Char) : Except Stop (Given × Pending) :=
  let name := String.ofList (text.takeWhile (· ≠ '='))
  let shown := "--" ++ name
  match Opt.ofName? name, text.dropWhile (· ≠ '=') with
  | none, _ => .error (.unknown shown)
  | some (.switch s), [] => do pure (← g.setSwitch shown s, none)
  | some (.switch _), _ :: _ => .error (.needlessValue shown)
  | some (.parameter p), [] => .ok (g, some (p, shown))
  | some (.parameter p), _ :: value => do
    pure (← g.setParameter shown (String.ofList value) p, none)

/-- Takes an argument that begins with no dash, or is a lone dash. -/
def readPlain (g : Given) (text : String) : Pending → Except Stop Given
  | some (p, shown) => g.setParameter shown text p
  | none => g.setInput text

/-- An option must not wait for its value any longer. -/
def settle : Pending → Except Stop Unit
  | some (_, shown) => .error (.missingValue shown)
  | none => .ok ()

/-- Reads the arguments behind `--`. -/
def readInputs (g : Given) : List String → Except Stop Given
  | [] => .ok g
  | text :: rest => do readInputs (← g.setInput text) rest

/-- Reads arguments, the first of which may be the value of an option that waits for one. -/
def readArguments (g : Given) (pending : Pending) : List String → Except Stop Given
  | [] => do
    settle pending
    pure g
  | text :: rest =>
    match text.toList with
    | ['-', '-'] => do
      settle pending
      readInputs g rest
    | '-' :: '-' :: long => do
      settle pending
      let (g, pending) ← readLong g long
      readArguments g pending rest
    | '-' :: letter :: letters => do
      settle pending
      let (g, pending) ← readLetters g (letter :: letters)
      readArguments g pending rest
    | _ => do readArguments (← readPlain g text pending) none rest

/-- What a run is asked to do, with a choice made where none is given. -/
structure Options where
  input : Path := ⟨"tokens.txt"⟩
  outDir : Path := ⟨"tables"⟩
  format : Format := .text
  settings : Settings := {}
  check : Bool := false
  dumpTokens : Bool := false
  verbosity : Nat := 0
  deriving DecidableEq, Repr

/-- Fills in what is not given. -/
def Given.options (g : Given) : Options :=
  { input := g.input.getD ⟨"tokens.txt"⟩
    outDir := g.outDir.getD ⟨"tables"⟩
    format := g.format.getD .text
    settings :=
      { dialect := g.dialect.getD .english
        scan := if g.leadingScan then .leading else .statement
        defaultScope := g.defaultScope.getD "Main" }
    check := g.check
    dumpTokens := g.dumpTokens
    verbosity := g.verbosity }

/-- The options that arguments give. -/
def Options.ofArguments (args : List String) : Except Stop Options :=
  (readArguments {} none args).map Given.options

end Pseudocode
