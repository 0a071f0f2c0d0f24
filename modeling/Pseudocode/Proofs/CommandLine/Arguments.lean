/-
  Pseudocode.Proofs.CommandLine.Arguments — which options a list of arguments selects.

  Arguments are written in a small language. An option stands by its name behind two dashes, or by
  its letter behind one, where letters may stand together. An option that takes a value has it
  behind an equals sign or right behind its letter, or the next argument is the value. Written so,
  arguments ask for things, one after the other. They select what they ask for: each thing once at
  most, with a default where they ask for nothing, and neither help nor version (`Selects`).

  A reader that goes through the arguments once keeps what was given so far. What it has at the end
  is what it had, and what the arguments behind ask for on top (`Given.Adds`).

  Proved:
  (1) What is added in two parts is added one part after the other (`adds_append_iff`).
  (2) What one argument adds, as an iff: a value, a switch, an input (`setParameter_eq_ok_iff`,
      `setSwitch_eq_ok_iff`, `setInput_eq_ok_iff`).
  (3) What is given from nothing on, with the defaults filled in, is what is meant
      (`adds_iff_meantBy`).
-/

import Mathlib.Data.List.Basic
import Pseudocode.CommandLine.Options
import Pseudocode.Trace

namespace Pseudocode

/-! ## The language of arguments -/

def Parameter.name : Parameter → String
  | .outDir => "out-dir"
  | .dialect => "dialect"
  | .format => "format"
  | .defaultScope => "default-scope"

def Parameter.letter? : Parameter → Option Char
  | .outDir => some 'o'
  | .dialect => some 'd'
  | .format => some 'f'
  | .defaultScope => none

def Switch.name : Switch → String
  | .leadingScan => "legacy-assignment-scan"
  | .check => "check"
  | .dumpTokens => "dump-tokens"
  | .verbose => "verbose"
  | .help => "help"
  | .version => "version"

def Switch.letter? : Switch → Option Char
  | .leadingScan => none
  | .check => none
  | .dumpTokens => none
  | .verbose => some 'v'
  | .help => some 'h'
  | .version => some 'V'

/-- One thing that arguments ask for. -/
inductive Asked where
  | parameter (p : Parameter) (value : String)
  | switch (s : Switch)
  | input (text : String)
  deriving DecidableEq, Repr

/-- The letters behind a dash, what they ask for, and the option that waits for its value after
them. -/
inductive Cluster : List Char → List Asked → Option Parameter → Prop
  | nil : Cluster [] [] none
  | switch {s : Switch} {letter : Char} {rest : List Char} {asked : List Asked}
      {waiting : Option Parameter} : s.letter? = some letter → Cluster rest asked waiting →
      Cluster (letter :: rest) (.switch s :: asked) waiting
  | waiting {p : Parameter} {letter : Char} : p.letter? = some letter → Cluster [letter] [] (some p)
  | attached {p : Parameter} {letter : Char} {value : List Char} : p.letter? = some letter →
      value ≠ [] → value.head? ≠ some '=' →
      Cluster (letter :: value) [.parameter p (String.ofList value)] none
  | assigned {p : Parameter} {letter : Char} {value : List Char} : p.letter? = some letter →
      Cluster (letter :: '=' :: value) [.parameter p (String.ofList value)] none

/-- An argument with options, what it asks for, and the option that waits for its value after it. -/
inductive Argument : String → List Asked → Option Parameter → Prop
  | waiting (p : Parameter) : Argument ("--" ++ p.name) [] (some p)
  | assigned (p : Parameter) (value : String) :
      Argument ("--" ++ p.name ++ "=" ++ value) [.parameter p value] none
  | switch (s : Switch) : Argument ("--" ++ s.name) [.switch s] none
  | letters {letters : List Char} {asked : List Asked} {waiting : Option Parameter} :
      letters ≠ [] → Cluster letters asked waiting →
      Argument ("-" ++ String.ofList letters) asked waiting

/-- An argument that is no option: it begins with no dash, or is a lone dash. -/
def IsPlain (text : String) : Prop := text.toList.head? = some '-' → text = "-"

/-- Arguments and what they ask for. The first of them is the value of the option that waits for
one, if any does; behind two dashes everything is an input. -/
inductive Written : Option Parameter → List String → List Asked → Prop
  | nil : Written none [] []
  | option {text : String} {rest : List String} {asked more : List Asked}
      {waiting : Option Parameter} : Argument text asked waiting → Written waiting rest more →
      Written none (text :: rest) (asked ++ more)
  | value {p : Parameter} {text : String} {rest : List String} {more : List Asked} :
      IsPlain text → Written none rest more →
      Written (some p) (text :: rest) (.parameter p text :: more)
  | input {text : String} {rest : List String} {more : List Asked} :
      IsPlain text → Written none rest more → Written none (text :: rest) (.input text :: more)
  | inputs (texts : List String) : Written none ("--" :: texts) (texts.map .input)

/-! ## What arguments mean -/

def Dialect.word : Dialect → String
  | .english => "english"
  | .spanish => "spanish"

def Format.word : Format → String
  | .text => "text"
  | .json => "json"

/-- The values that are given to an option. -/
def valuesOf (p : Parameter) (asked : List Asked) : List String :=
  asked.filterMap fun
    | .parameter q value => if q = p then some value else none
    | _ => none

/-- The inputs that are named. -/
def inputsOf (asked : List Asked) : List String :=
  asked.filterMap fun
    | .input text => some text
    | _ => none

/-- The one value that is given, or the default where none is. -/
def OnlyOr (default value : String) (given : List String) : Prop :=
  given = [value] ∨ given = [] ∧ value = default

/-- The options that are meant by what arguments ask for. -/
structure MeantBy (asked : List Asked) (options : Options) : Prop where
  input : OnlyOr "tokens.txt" options.input.text (inputsOf asked)
  outDir : OnlyOr "tables" options.outDir.text (valuesOf .outDir asked)
  dialect : OnlyOr "english" options.settings.dialect.word (valuesOf .dialect asked)
  format : OnlyOr "text" options.format.word (valuesOf .format asked)
  defaultScope : OnlyOr "Main" options.settings.defaultScope (valuesOf .defaultScope asked)
  scan : options.settings.scan = if .switch .leadingScan ∈ asked then .leading else .statement
  check : options.check = true ↔ .switch .check ∈ asked
  dumpTokens : options.dumpTokens = true ↔ .switch .dumpTokens ∈ asked
  verbosity : options.verbosity = asked.count (.switch .verbose)
  /-- A path is not empty. -/
  paths : options.input.text ≠ "" ∧ options.outDir.text ≠ ""
  /-- Only `--verbose` may stand more than once. -/
  once : ∀ s, s ≠ .verbose → asked.count (.switch s) ≤ 1
  /-- Neither the help nor the version is asked for. -/
  answered : .switch .help ∉ asked ∧ .switch .version ∉ asked

/-- The options that arguments select. -/
def Selects (args : List String) (options : Options) : Prop :=
  ∃ asked, Written none args asked ∧ MeantBy asked options

/-! ## Values given once -/

section Extending

variable {α : Type} {shown : α → String} {old new : Option α} {given more : List String}

/-- What is given once at most, with what is given on top. -/
def Extends (shown : α → String) (old : Option α) (given : List String) (new : Option α) : Prop :=
  new.toList.map shown = old.toList.map shown ++ given

theorem extends_append_iff :
    Extends shown old (given ++ more) new ↔
      ∃ middle, Extends shown old given middle ∧ Extends shown middle more new := by
  unfold Extends
  constructor
  · intro h
    cases given with
    | nil => exact ⟨old, by simp, by simpa using h⟩
    | cons text rest =>
      refine ⟨new, ?_, ?_⟩ <;> cases old <;> cases new <;> simp_all
  · rintro ⟨middle, first, second⟩
    rw [second, first, List.append_assoc]

@[simp] theorem extends_nil_iff (inj : Function.Injective shown) :
    Extends shown old [] new ↔ new = old := by
  unfold Extends
  rw [List.append_nil, (List.map_injective_iff.2 inj).eq_iff]
  cases old <;> cases new <;> simp

@[simp] theorem extends_singleton_iff {text : String} :
    Extends shown old [text] new ↔ old = none ∧ ∃ a, new = some a ∧ shown a = text := by
  unfold Extends
  cases old <;> cases new <;> simp

end Extending

section Setting

variable {old new : Bool} {times more : Nat}

/-- What is set once at most, with the times it is set on top. -/
def Sets (old : Bool) (times : Nat) (new : Bool) : Prop := new.toNat = old.toNat + times

theorem sets_add_iff :
    Sets old (times + more) new ↔ ∃ middle, Sets old times middle ∧ Sets middle more new := by
  unfold Sets
  constructor
  · intro h
    cases times with
    | zero => exact ⟨old, rfl, by omega⟩
    | succ n =>
      have most := Bool.toNat_le new
      exact ⟨new, by omega, by omega⟩
  · rintro ⟨middle, first, second⟩
    omega

@[simp] theorem sets_zero_iff : Sets old 0 new ↔ new = old := by
  unfold Sets
  cases old <;> cases new <;> decide

@[simp] theorem sets_one_iff : Sets old 1 new ↔ old = false ∧ new = true := by
  unfold Sets
  cases old <;> cases new <;> decide

@[simp] theorem sets_true_iff : Sets true times new ↔ new = true ∧ times = 0 := by
  unfold Sets
  cases new
  · simp only [Bool.toNat_false, Bool.toNat_true, Bool.false_eq_true, false_and, iff_false]
    omega
  · simp only [Bool.toNat_true, true_and]
    omega

end Setting

/-! ## What arguments add -/

/-- What was given before, and what arguments ask for on top. -/
@[mk_iff]
structure Given.Adds (g : Given) (asked : List Asked) (h : Given) : Prop where
  input : Extends Path.text g.input (inputsOf asked) h.input
  outDir : Extends Path.text g.outDir (valuesOf .outDir asked) h.outDir
  dialect : Extends Dialect.word g.dialect (valuesOf .dialect asked) h.dialect
  format : Extends Format.word g.format (valuesOf .format asked) h.format
  defaultScope : Extends id g.defaultScope (valuesOf .defaultScope asked) h.defaultScope
  leadingScan : Sets g.leadingScan (asked.count (.switch .leadingScan)) h.leadingScan
  check : Sets g.check (asked.count (.switch .check)) h.check
  dumpTokens : Sets g.dumpTokens (asked.count (.switch .dumpTokens)) h.dumpTokens
  verbosity : h.verbosity = g.verbosity + asked.count (.switch .verbose)
  inputs : ∀ text ∈ inputsOf asked, text ≠ ""
  outDirs : ∀ text ∈ valuesOf .outDir asked, text ≠ ""
  help : .switch .help ∉ asked
  version : .switch .version ∉ asked

@[simp] theorem Path.text_injective : Function.Injective Path.text := by
  rintro ⟨first⟩ ⟨second⟩ same
  cases same
  rfl

@[simp] theorem Dialect.word_injective : Function.Injective Dialect.word := by
  intro first second
  cases first <;> cases second <;> decide

@[simp] theorem Format.word_injective : Function.Injective Format.word := by
  intro first second
  cases first <;> cases second <;> decide

@[simp] theorem valuesOf_nil (p : Parameter) : valuesOf p [] = [] := rfl

@[simp] theorem inputsOf_nil : inputsOf [] = [] := rfl

@[simp] theorem valuesOf_parameter (p q : Parameter) (value : String) :
    valuesOf p [.parameter q value] = if q = p then [value] else [] := by
  by_cases same : q = p <;> simp [valuesOf, same]

@[simp] theorem valuesOf_switch (p : Parameter) (s : Switch) : valuesOf p [.switch s] = [] := rfl

@[simp] theorem valuesOf_input (p : Parameter) (text : String) :
    valuesOf p [.input text] = [] := rfl

@[simp] theorem inputsOf_parameter (p : Parameter) (value : String) :
    inputsOf [.parameter p value] = [] := rfl

@[simp] theorem inputsOf_switch (s : Switch) : inputsOf [.switch s] = [] := rfl

@[simp] theorem inputsOf_input (text : String) : inputsOf [.input text] = [text] := rfl

@[simp] theorem valuesOf_append (p : Parameter) (first second : List Asked) :
    valuesOf p (first ++ second) = valuesOf p first ++ valuesOf p second :=
  List.filterMap_append

@[simp] theorem inputsOf_append (first second : List Asked) :
    inputsOf (first ++ second) = inputsOf first ++ inputsOf second :=
  List.filterMap_append

section Adding

variable {g h : Given} {asked more : List Asked} {shown value : String}

/-- What is asked for in two parts is added one part after the other. -/
theorem adds_append_iff :
    g.Adds (asked ++ more) h ↔ ∃ middle, g.Adds asked middle ∧ middle.Adds more h := by
  constructor
  · rintro ⟨input, outDir, dialect, format, scope, scan, check, dump, verbosity, inputs, outDirs,
      help, version⟩
    rw [inputsOf_append] at input inputs
    rw [valuesOf_append] at outDir dialect format scope outDirs
    rw [List.count_append] at scan check dump verbosity
    rw [List.mem_append, not_or] at help version
    rw [List.forall_mem_append] at inputs outDirs
    obtain ⟨input', input₁, input₂⟩ := extends_append_iff.1 input
    obtain ⟨outDir', outDir₁, outDir₂⟩ := extends_append_iff.1 outDir
    obtain ⟨dialect', dialect₁, dialect₂⟩ := extends_append_iff.1 dialect
    obtain ⟨format', format₁, format₂⟩ := extends_append_iff.1 format
    obtain ⟨scope', scope₁, scope₂⟩ := extends_append_iff.1 scope
    obtain ⟨scan', scan₁, scan₂⟩ := sets_add_iff.1 scan
    obtain ⟨check', check₁, check₂⟩ := sets_add_iff.1 check
    obtain ⟨dump', dump₁, dump₂⟩ := sets_add_iff.1 dump
    exact ⟨⟨input', outDir', dialect', format', scan', scope', check', dump', _⟩,
      ⟨input₁, outDir₁, dialect₁, format₁, scope₁, scan₁, check₁, dump₁, rfl, inputs.1, outDirs.1,
        help.1, version.1⟩,
      ⟨input₂, outDir₂, dialect₂, format₂, scope₂, scan₂, check₂, dump₂,
        verbosity.trans (Nat.add_assoc ..).symm, inputs.2, outDirs.2, help.2, version.2⟩⟩
  · rintro ⟨middle, a, b⟩
    constructor
    case input => exact inputsOf_append .. ▸ extends_append_iff.2 ⟨_, a.input, b.input⟩
    case outDir => exact valuesOf_append .. ▸ extends_append_iff.2 ⟨_, a.outDir, b.outDir⟩
    case dialect => exact valuesOf_append .. ▸ extends_append_iff.2 ⟨_, a.dialect, b.dialect⟩
    case format => exact valuesOf_append .. ▸ extends_append_iff.2 ⟨_, a.format, b.format⟩
    case defaultScope =>
      exact valuesOf_append .. ▸ extends_append_iff.2 ⟨_, a.defaultScope, b.defaultScope⟩
    case leadingScan =>
      rw [List.count_append]
      exact sets_add_iff.2 ⟨_, a.leadingScan, b.leadingScan⟩
    case check =>
      rw [List.count_append]
      exact sets_add_iff.2 ⟨_, a.check, b.check⟩
    case dumpTokens =>
      rw [List.count_append]
      exact sets_add_iff.2 ⟨_, a.dumpTokens, b.dumpTokens⟩
    case verbosity => rw [List.count_append, b.verbosity, a.verbosity, Nat.add_assoc]
    case inputs =>
      rw [inputsOf_append, List.forall_mem_append]
      exact ⟨a.inputs, b.inputs⟩
    case outDirs =>
      rw [valuesOf_append, List.forall_mem_append]
      exact ⟨a.outDirs, b.outDirs⟩
    case help => rw [List.mem_append, not_or]; exact ⟨a.help, b.help⟩
    case version => rw [List.mem_append, not_or]; exact ⟨a.version, b.version⟩

theorem adds_cons_iff {first : Asked} :
    g.Adds (first :: more) h ↔ ∃ middle, g.Adds [first] middle ∧ middle.Adds more h := by
  rw [← List.singleton_append, adds_append_iff]

theorem ite_error_eq_ok_iff {ε α : Type} {c : Prop} [Decidable c] {e : ε} {a b : α} :
    (if c then Except.error e else .ok a) = .ok b ↔ ¬ c ∧ a = b := by
  by_cases h : c <;> simp [h]

@[simp] theorem setOnce_eq_ok_iff {α : Type} {old new' : Option α} {new : α} :
    setOnce shown old new = .ok new' ↔ old = none ∧ new' = some new := by
  cases old <;> simp [setOnce, eq_comm]

@[simp] theorem valueOr_eq_ok_iff {α : Type} {given : Option α} {a : α} :
    valueOr shown given = .ok a ↔ given = some a := by
  cases given <;> simp [valueOr]

@[simp] theorem pathOf?_eq_some_iff {path : Path} :
    pathOf? value = some path ↔ path.text = value ∧ value ≠ "" := by
  obtain ⟨text⟩ := path
  by_cases empty : value = ""
  · simp [pathOf?, empty]
  · rw [pathOf?, if_neg (mt String.isEmpty_iff.1 empty)]
    simp [empty, eq_comm]

@[simp] theorem dialectOf?_eq_some_iff {dialect : Dialect} :
    dialectOf? value = some dialect ↔ dialect.word = value := by
  unfold dialectOf?
  split <;> cases dialect <;> simp_all [Dialect.word, eq_comm]

@[simp] theorem formatOf?_eq_some_iff {format : Format} :
    formatOf? value = some format ↔ format.word = value := by
  unfold formatOf?
  split <;> cases format <;> simp_all [Format.word, eq_comm]

/-- Without a request, what was given stays. -/
theorem adds_nil_iff : g.Adds [] h ↔ h = g := by
  cases g
  cases h
  simp [Given.adds_iff, Function.injective_id]
  grind

/-- An option takes a value that it can have, unless it has one. -/
theorem setParameter_eq_ok_iff {p : Parameter} :
    g.setParameter shown value p = .ok h ↔ g.Adds [.parameter p value] h := by
  cases g
  cases h
  cases p <;>
    simp [Given.setParameter, except_bind_eq_ok_iff, Given.adds_iff, Function.injective_id,
      pure, Except.pure] <;>
    grind

/-- A switch is set, unless it is set; nothing is given where a text is asked for. -/
theorem setSwitch_eq_ok_iff {s : Switch} :
    g.setSwitch shown s = .ok h ↔ g.Adds [.switch s] h := by
  cases g
  cases h
  cases s <;>
    simp [Given.setSwitch, ite_error_eq_ok_iff, Given.adds_iff, Function.injective_id] <;>
    grind

/-- An input is taken that is a path, unless there is one. -/
theorem setInput_eq_ok_iff : g.setInput value = .ok h ↔ g.Adds [.input value] h := by
  obtain ⟨input⟩ := g
  cases h
  cases input <;>
    simp [Given.setInput, except_bind_eq_ok_iff, Given.adds_iff, Function.injective_id,
      pure, Except.pure]
  grind

end Adding

/-! ## Options from what is given -/

section Defaults

variable {α : Type} {shown : α → String} {value : α} {given : List String}

/-- The one value that is given, or the default, is what was read of it. -/
theorem onlyOr_iff (inj : Function.Injective shown) (default : α) :
    OnlyOr (shown default) (shown value) given ↔
      ∃ read : Option α, Extends shown none given read ∧ read.getD default = value := by
  unfold OnlyOr Extends
  constructor
  · rintro (rfl | ⟨rfl, same⟩)
    · exact ⟨some value, rfl, rfl⟩
    · exact ⟨none, rfl, (inj same).symm⟩
  · rintro ⟨read, rfl, rfl⟩
    cases read with
    | none => exact .inr ⟨rfl, rfl⟩
    | some a => exact .inl rfl

/-- A switch that is named once at most is set when it is named. -/
theorem sets_count_iff {s : Switch} {asked : List Asked} {new : Bool} :
    Sets false (asked.count (.switch s)) new ↔
      asked.count (.switch s) ≤ 1 ∧ (new = true ↔ .switch s ∈ asked) := by
  unfold Sets
  rw [← List.count_pos_iff]
  generalize asked.count (.switch s) = times
  cases new
  · simp only [Bool.toNat_false, Bool.false_eq_true, false_iff]
    omega
  · simp only [Bool.toNat_true, Bool.toNat_false, true_iff]
    omega

theorem ne_empty_iff_of_onlyOr {default value : String} (only : OnlyOr default value given)
    (filled : default ≠ "") : value ≠ "" ↔ ∀ text ∈ given, text ≠ "" := by
  rcases only with rfl | ⟨rfl, rfl⟩
  · rw [List.forall_mem_singleton]
  · exact iff_of_true filled (List.forall_mem_nil _)

/-- What is given from nothing on, with the defaults filled in, is what is meant. -/
theorem adds_iff_meantBy {asked : List Asked} {options : Options} :
    (∃ given, Given.Adds {} asked given ∧ given.options = options) ↔ MeantBy asked options := by
  constructor
  · rintro ⟨given, adds, rfl⟩
    constructor
    case input => exact (onlyOr_iff Path.text_injective _).2 ⟨_, adds.input, rfl⟩
    case outDir => exact (onlyOr_iff Path.text_injective _).2 ⟨_, adds.outDir, rfl⟩
    case dialect => exact (onlyOr_iff Dialect.word_injective _).2 ⟨_, adds.dialect, rfl⟩
    case format => exact (onlyOr_iff Format.word_injective _).2 ⟨_, adds.format, rfl⟩
    case defaultScope => exact (onlyOr_iff Function.injective_id _).2 ⟨_, adds.defaultScope, rfl⟩
    case scan =>
      have set := (sets_count_iff.1 adds.leadingScan).2
      simp only [Given.options, set]
    case check => exact (sets_count_iff.1 adds.check).2
    case dumpTokens => exact (sets_count_iff.1 adds.dumpTokens).2
    case verbosity => exact adds.verbosity.trans (Nat.zero_add _)
    case paths =>
      have input := (onlyOr_iff Path.text_injective ⟨"tokens.txt"⟩).2 ⟨_, adds.input, rfl⟩
      have outDir := (onlyOr_iff Path.text_injective ⟨"tables"⟩).2 ⟨_, adds.outDir, rfl⟩
      exact ⟨(ne_empty_iff_of_onlyOr input (by decide)).2 adds.inputs,
        (ne_empty_iff_of_onlyOr outDir (by decide)).2 adds.outDirs⟩
    case once =>
      intro s other
      cases s with
      | leadingScan => exact (sets_count_iff.1 adds.leadingScan).1
      | check => exact (sets_count_iff.1 adds.check).1
      | dumpTokens => exact (sets_count_iff.1 adds.dumpTokens).1
      | verbose => exact absurd rfl other
      | help => exact (List.count_eq_zero.2 adds.help) ▸ Nat.zero_le 1
      | version => exact (List.count_eq_zero.2 adds.version) ▸ Nat.zero_le 1
    case answered => exact ⟨adds.help, adds.version⟩
  · intro meant
    obtain ⟨input, input₁, input₂⟩ :=
      (onlyOr_iff Path.text_injective ⟨"tokens.txt"⟩).1 meant.input
    obtain ⟨outDir, outDir₁, outDir₂⟩ :=
      (onlyOr_iff Path.text_injective ⟨"tables"⟩).1 meant.outDir
    obtain ⟨dialect, dialect₁, dialect₂⟩ :=
      (onlyOr_iff Dialect.word_injective .english).1 meant.dialect
    obtain ⟨format, format₁, format₂⟩ :=
      (onlyOr_iff Format.word_injective .text).1 meant.format
    obtain ⟨scope, scope₁, scope₂⟩ :=
      (onlyOr_iff Function.injective_id "Main").1 meant.defaultScope
    refine ⟨⟨input, outDir, dialect, format, decide (.switch .leadingScan ∈ asked), scope,
      options.check, options.dumpTokens, options.verbosity⟩, ?_, ?_⟩
    · constructor
      case input => exact input₁
      case outDir => exact outDir₁
      case dialect => exact dialect₁
      case format => exact format₁
      case defaultScope => exact scope₁
      case leadingScan => exact sets_count_iff.2 ⟨meant.once _ (by decide), decide_eq_true_iff⟩
      case check => exact sets_count_iff.2 ⟨meant.once _ (by decide), meant.check⟩
      case dumpTokens => exact sets_count_iff.2 ⟨meant.once _ (by decide), meant.dumpTokens⟩
      case verbosity => exact meant.verbosity.trans (Nat.zero_add _).symm
      case inputs => exact (ne_empty_iff_of_onlyOr meant.input (by decide)).1 meant.paths.1
      case outDirs => exact (ne_empty_iff_of_onlyOr meant.outDir (by decide)).1 meant.paths.2
      case help => exact meant.answered.1
      case version => exact meant.answered.2
    · have scan := meant.scan
      obtain ⟨i, o, f, ⟨d, s, n⟩, c, t, v⟩ := options
      simp_all [Given.options]

end Defaults

end Pseudocode
