/-
  Pseudocode.Proofs.CommandLine.Selection — arguments are read as they are written.

  The reader goes from left to right and takes one argument after the other. It may be left with an
  option that waits for its value; that option is part of the language too, for it says what the
  next argument is. So the reader and the language take the same steps: the reader accepts what is
  written in the language and nothing else, and adds what it asks for.

  Proved:
  (1) The options by name and by letter (`ofName?_eq_parameter_iff`, `ofName?_eq_switch_iff`,
      `ofLetter?_eq_parameter_iff`, `ofLetter?_eq_switch_iff`).
  (2) One argument: what the readers accept is written so (`cluster_of_readLetters`,
      `argument_of_readLong`), and they accept what is written so (`readLetters_of_cluster`,
      `readArguments_of_argument`).
  (3) All arguments, from any state of the reader (`readArguments_eq_ok_iff`).
  (4) The options that arguments give are those that they select (`ofArguments_eq_ok_iff`).
  (5) They are one choice (`Selects.unique`). A request to show the tokens adds itself to what the
      arguments behind it select, and nothing else (`selects_dumpTokens_iff`).
-/

import Pseudocode.Proofs.CommandLine.Arguments

namespace Pseudocode

/-! ## Reading one argument -/

theorem ofLetter?_eq_parameter_iff {letter : Char} {p : Parameter} :
    Opt.ofLetter? letter = some (.parameter p) ↔ p.letter? = some letter := by
  unfold Opt.ofLetter?
  split <;> cases p <;> simp_all [Parameter.letter?, eq_comm]

theorem ofLetter?_eq_switch_iff {letter : Char} {s : Switch} :
    Opt.ofLetter? letter = some (.switch s) ↔ s.letter? = some letter := by
  unfold Opt.ofLetter?
  split <;> cases s <;> simp_all [Switch.letter?, eq_comm]

theorem ofName?_eq_parameter_iff {name : String} {p : Parameter} :
    Opt.ofName? name = some (.parameter p) ↔ name = p.name := by
  unfold Opt.ofName?
  split <;> cases p <;> simp_all [Parameter.name]

theorem ofName?_eq_switch_iff {name : String} {s : Switch} :
    Opt.ofName? name = some (.switch s) ↔ name = s.name := by
  unfold Opt.ofName?
  split <;> cases s <;> simp_all [Switch.name]

theorem withoutEquals_cons {first : Char} (h : first ≠ '=') (rest : List Char) :
    withoutEquals (first :: rest) = first :: rest := by
  unfold withoutEquals
  split
  · rename_i same
    cases same
    exact absurd rfl h
  · rfl

section Reading

variable {g h : Given} {asked : List Asked} {waiting : Option Parameter} {pending : Pending}

theorem cluster_of_readLetters {letters : List Char}
    (ok : readLetters g letters = .ok (h, pending)) :
    ∃ asked, Cluster letters asked (pending.map Prod.fst) ∧ g.Adds asked h := by
  induction letters generalizing g with
  | nil =>
    cases ok
    exact ⟨[], .nil, adds_nil_iff.2 rfl⟩
  | cons letter rest ih =>
    rw [readLetters] at ok
    cases found : Opt.ofLetter? letter with
    | none =>
      rw [found] at ok
      cases ok
    | some option =>
      rw [found] at ok
      cases option with
      | switch s =>
        obtain ⟨middle, set, ok⟩ := except_bind_eq_ok_iff.1 ok
        obtain ⟨asked, cluster, adds⟩ := ih ok
        exact ⟨_, .switch (ofLetter?_eq_switch_iff.1 found) cluster,
          adds_cons_iff.2 ⟨middle, setSwitch_eq_ok_iff.1 set, adds⟩⟩
      | parameter p =>
        have named := ofLetter?_eq_parameter_iff.1 found
        cases rest with
        | nil =>
          cases ok
          exact ⟨[], .waiting named, adds_nil_iff.2 rfl⟩
        | cons first value =>
          obtain ⟨middle, set, ok⟩ := except_bind_eq_ok_iff.1 ok
          cases ok
          have adds := setParameter_eq_ok_iff.1 set
          by_cases equals : first = '='
          · subst equals
            exact ⟨_, .assigned named, adds⟩
          · rw [withoutEquals_cons equals] at adds
            exact ⟨_, .attached named (by simp) (by simpa using equals), adds⟩

theorem readLetters_of_cluster {letters : List Char} (cluster : Cluster letters asked waiting)
    (adds : g.Adds asked h) :
    ∃ pending, readLetters g letters = .ok (h, pending) ∧ pending.map Prod.fst = waiting := by
  induction cluster generalizing g with
  | nil =>
    cases adds_nil_iff.1 adds
    exact ⟨none, rfl, rfl⟩
  | switch named _ ih =>
    obtain ⟨middle, set, adds⟩ := adds_cons_iff.1 adds
    obtain ⟨pending, ok, waits⟩ := ih adds
    refine ⟨pending, ?_, waits⟩
    rw [readLetters, ofLetter?_eq_switch_iff.2 named]
    exact except_bind_eq_ok_iff.2 ⟨middle, setSwitch_eq_ok_iff.2 set, ok⟩
  | waiting named =>
    cases adds_nil_iff.1 adds
    rw [readLetters, ofLetter?_eq_parameter_iff.2 named]
    exact ⟨_, rfl, rfl⟩
  | @attached p letter value named filled noEquals =>
    refine ⟨none, ?_, rfl⟩
    cases value with
    | nil => exact absurd rfl filled
    | cons first rest =>
      have same := withoutEquals_cons (by simpa using noEquals) rest
      rw [readLetters, ofLetter?_eq_parameter_iff.2 named]
      refine except_bind_eq_ok_iff.2 ⟨h, setParameter_eq_ok_iff.2 ?_, rfl⟩
      rw [same]
      exact adds
  | assigned named =>
    refine ⟨none, ?_, rfl⟩
    rw [readLetters, ofLetter?_eq_parameter_iff.2 named]
    exact except_bind_eq_ok_iff.2 ⟨h, setParameter_eq_ok_iff.2 adds, rfl⟩

theorem text_assigned (name value : List Char) :
    "--" ++ String.ofList (name ++ '=' :: value) =
      "--" ++ String.ofList name ++ "=" ++ String.ofList value :=
  String.toList_inj.1 (by simp)

theorem argument_of_readLong {text : List Char} (ok : readLong g text = .ok (h, pending)) :
    ∃ asked, Argument ("--" ++ String.ofList text) asked (pending.map Prod.fst) ∧
      g.Adds asked h := by
  have halves : text.takeWhile (· ≠ '=') ++ text.dropWhile (· ≠ '=') = text :=
    List.takeWhile_append_dropWhile
  have ends := List.head?_dropWhile_not (fun c => decide (c ≠ '=')) text
  unfold readLong at ok
  generalize text.takeWhile (· ≠ '=') = name at ok halves
  generalize text.dropWhile (· ≠ '=') = behind at ok halves ends
  subst halves
  cases found : Opt.ofName? (String.ofList name) with
  | none =>
    simp only [found] at ok
    cases ok
  | some option =>
    simp only [found] at ok
    cases option with
    | switch s =>
      cases behind with
      | nil =>
        obtain ⟨middle, set, ok⟩ := except_bind_eq_ok_iff.1 ok
        cases ok
        rw [List.append_nil, ofName?_eq_switch_iff.1 found]
        exact ⟨_, .switch s, setSwitch_eq_ok_iff.1 set⟩
      | cons first value => cases ok
    | parameter p =>
      cases behind with
      | nil =>
        cases ok
        rw [List.append_nil, ofName?_eq_parameter_iff.1 found]
        exact ⟨[], .waiting p, adds_nil_iff.2 rfl⟩
      | cons first value =>
        obtain ⟨middle, set, ok⟩ := except_bind_eq_ok_iff.1 ok
        cases ok
        obtain rfl : first = '=' := by simpa using ends
        rw [text_assigned, ofName?_eq_parameter_iff.1 found]
        exact ⟨_, .assigned p _, setParameter_eq_ok_iff.1 set⟩

theorem readLong_waiting (g : Given) (p : Parameter) :
    readLong g p.name.toList = .ok (g, some (p, "--" ++ p.name)) := by
  cases p <;> rfl

theorem readLong_switch (g : Given) (s : Switch) :
    readLong g s.name.toList = (g.setSwitch ("--" ++ s.name) s).map (·, none) := by
  cases s <;> rfl

theorem readLong_assigned (g : Given) (p : Parameter) (value : List Char) :
    readLong g (p.name.toList ++ '=' :: value) =
      (g.setParameter ("--" ++ p.name) (String.ofList value) p).map (·, none) := by
  cases p <;> rfl

end Reading

/-! ## Reading all arguments -/

theorem toList_dashes (long : List Char) :
    ("--" ++ String.ofList long).toList = '-' :: '-' :: long := by
  simp

theorem toList_dash (letters : List Char) :
    ("-" ++ String.ofList letters).toList = '-' :: letters := by
  simp

/-- What is not plain is two dashes, a long option or letters. -/
theorem option_of_not_plain {text : String} (h : ¬ IsPlain text) :
    text = "--" ∨ (∃ long, long ≠ [] ∧ text = "--" ++ String.ofList long) ∨
      ∃ letter letters, letter ≠ '-' ∧ text = "-" ++ String.ofList (letter :: letters) := by
  obtain ⟨dash, notAlone⟩ := Classical.not_imp.1 h
  cases written : text.toList with
  | nil =>
    rw [written] at dash
    cases dash
  | cons first tail =>
    rw [written] at dash
    cases dash
    cases tail with
    | nil => exact absurd (String.toList_inj.1 written) notAlone
    | cons letter letters =>
      by_cases second : letter = '-'
      · subst second
        cases letters with
        | nil => exact .inl (String.toList_inj.1 written)
        | cons c long =>
          refine .inr (.inl ⟨c :: long, by simp, String.toList_inj.1 ?_⟩)
          rw [toList_dashes, written]
      · refine .inr (.inr ⟨letter, letters, second, String.toList_inj.1 ?_⟩)
        rw [toList_dash, written]

section Whole

variable {g h : Given} {asked : List Asked} {waiting : Option Parameter} {pending : Pending}

theorem readArguments_long (g : Given) (long : List Char) (filled : long ≠ [])
    (rest : List String) :
    readArguments g none (("--" ++ String.ofList long) :: rest) =
      readLong g long >>= fun next => readArguments next.1 next.2 rest := by
  rw [readArguments]
  simp only [toList_dashes]
  cases long with
  | nil => exact absurd rfl filled
  | cons c more => rfl

theorem readArguments_letters (g : Given) {letter : Char} (noDash : letter ≠ '-')
    (letters : List Char) (rest : List String) :
    readArguments g none (("-" ++ String.ofList (letter :: letters)) :: rest) =
      readLetters g (letter :: letters) >>= fun next => readArguments next.1 next.2 rest := by
  rw [readArguments]
  simp only [toList_dash]
  split
  · simp_all
  · simp_all
  · rename_i same
    cases same
    rfl
  · simp_all

theorem readArguments_plain {text : String} (plain : IsPlain text) (rest : List String) :
    readArguments g pending (text :: rest) =
      readPlain g text pending >>= fun next => readArguments next none rest := by
  rw [readArguments]
  unfold IsPlain at plain
  split
  · simp_all
  · simp_all
  · simp_all
  · rfl

theorem readArguments_of_not_plain {text : String} (h : ¬ IsPlain text)
    (waiting : Parameter × String) (rest : List String) :
    readArguments g (some waiting) (text :: rest) = .error (.missingValue waiting.2) := by
  rw [readArguments]
  rcases option_of_not_plain h with rfl | ⟨long, filled, rfl⟩ | ⟨letter, letters, noDash, rfl⟩
  · rfl
  · simp only [toList_dashes]
    cases long with
    | nil => exact absurd rfl filled
    | cons c more => rfl
  · simp only [toList_dash]
    split
    · simp_all
    · simp_all
    · rfl
    · simp_all

theorem readInputs_eq_ok_iff {texts : List String} :
    readInputs g texts = .ok h ↔ g.Adds (texts.map .input) h := by
  induction texts generalizing g with
  | nil =>
    rw [readInputs, List.map_nil, adds_nil_iff, Except.ok.injEq, eq_comm]
  | cons text rest ih =>
    rw [readInputs, except_bind_eq_ok_iff, List.map_cons, adds_cons_iff]
    simp only [setInput_eq_ok_iff, ih]

theorem written_of_readArguments {args : List String}
    (ok : readArguments g pending args = .ok h) :
    ∃ asked, Written (pending.map Prod.fst) args asked ∧ g.Adds asked h := by
  induction args generalizing g pending with
  | nil =>
    obtain ⟨_, settled, ok⟩ := except_bind_eq_ok_iff.1 ok
    cases ok
    cases pending with
    | none => exact ⟨[], .nil, adds_nil_iff.2 rfl⟩
    | some waiting => cases settled
  | cons text rest ih =>
    by_cases plain : IsPlain text
    · rw [readArguments_plain plain] at ok
      obtain ⟨middle, read, ok⟩ := except_bind_eq_ok_iff.1 ok
      obtain ⟨more, written, adds⟩ := ih ok
      cases pending with
      | none =>
        exact ⟨_, .input plain written,
          adds_cons_iff.2 ⟨middle, setInput_eq_ok_iff.1 read, adds⟩⟩
      | some waiting =>
        exact ⟨_, .value plain written,
          adds_cons_iff.2 ⟨middle, setParameter_eq_ok_iff.1 read, adds⟩⟩
    · cases pending with
      | some waiting =>
        rw [readArguments_of_not_plain plain] at ok
        cases ok
      | none =>
        rcases option_of_not_plain plain with
          rfl | ⟨long, filled, rfl⟩ | ⟨letter, letters, noDash, rfl⟩
        · exact ⟨_, .inputs rest, readInputs_eq_ok_iff.1 ok⟩
        · rw [readArguments_long g long filled] at ok
          obtain ⟨⟨middle, next⟩, read, ok⟩ := except_bind_eq_ok_iff.1 ok
          obtain ⟨asked, argument, first⟩ := argument_of_readLong read
          obtain ⟨more, written, adds⟩ := ih ok
          exact ⟨_, .option argument written, adds_append_iff.2 ⟨middle, first, adds⟩⟩
        · rw [readArguments_letters g noDash] at ok
          obtain ⟨⟨middle, next⟩, read, ok⟩ := except_bind_eq_ok_iff.1 ok
          obtain ⟨asked, cluster, first⟩ := cluster_of_readLetters read
          obtain ⟨more, written, adds⟩ := ih ok
          exact ⟨_, .option (.letters (by simp) cluster) written,
            adds_append_iff.2 ⟨middle, first, adds⟩⟩

theorem Cluster.first_ne_dash {letter : Char} {letters : List Char}
    (cluster : Cluster (letter :: letters) asked waiting) : letter ≠ '-' := by
  rintro rfl
  have noParameter (p : Parameter) : p.letter? ≠ some '-' := by cases p <;> decide
  have noSwitch (s : Switch) : s.letter? ≠ some '-' := by cases s <;> decide
  cases cluster with
  | switch named => exact noSwitch _ named
  | waiting named => exact noParameter _ named
  | attached named => exact noParameter _ named
  | assigned named => exact noParameter _ named

theorem readArguments_of_argument {text : String} (argument : Argument text asked waiting)
    (adds : g.Adds asked h) (rest : List String) :
    ∃ pending, pending.map Prod.fst = waiting ∧
      readArguments g none (text :: rest) = readArguments h pending rest := by
  cases argument with
  | waiting p =>
    refine ⟨some (p, "--" ++ p.name), rfl, ?_⟩
    cases adds_nil_iff.1 adds
    have read := readArguments_long g p.name.toList (by cases p <;> decide) rest
    rw [readLong_waiting, String.ofList_toList] at read
    exact read
  | switch s =>
    refine ⟨none, rfl, ?_⟩
    have read := readArguments_long g s.name.toList (by cases s <;> decide) rest
    rw [readLong_switch, setSwitch_eq_ok_iff.2 adds, String.ofList_toList] at read
    exact read
  | assigned p value =>
    refine ⟨none, rfl, ?_⟩
    have read := readArguments_long g (p.name.toList ++ '=' :: value.toList) (by simp) rest
    rw [readLong_assigned, text_assigned, String.ofList_toList, String.ofList_toList,
      setParameter_eq_ok_iff.2 adds] at read
    exact read
  | @letters letters _ _ filled cluster =>
    obtain ⟨pending, ok, waits⟩ := readLetters_of_cluster cluster adds
    refine ⟨pending, waits, ?_⟩
    cases letters with
    | nil => exact absurd rfl filled
    | cons letter more => rw [readArguments_letters g cluster.first_ne_dash, ok]; rfl

theorem readArguments_of_written {args : List String} (written : Written waiting args asked)
    (adds : g.Adds asked h) (waits : pending.map Prod.fst = waiting) :
    readArguments g pending args = .ok h := by
  induction written generalizing g pending with
  | nil =>
    cases adds_nil_iff.1 adds
    rw [Option.map_eq_none_iff.1 waits]
    rfl
  | option argument _ ih =>
    obtain ⟨middle, first, adds⟩ := adds_append_iff.1 adds
    obtain ⟨next, waits', read⟩ := readArguments_of_argument argument first _
    rw [Option.map_eq_none_iff.1 waits, read]
    exact ih adds waits'
  | value plain _ ih =>
    obtain ⟨⟨p, shown⟩, rfl, rfl⟩ := Option.map_eq_some_iff.1 waits
    obtain ⟨middle, first, adds⟩ := adds_cons_iff.1 adds
    rw [readArguments_plain plain]
    exact except_bind_eq_ok_iff.2 ⟨middle, setParameter_eq_ok_iff.2 first, ih adds rfl⟩
  | input plain _ ih =>
    obtain ⟨middle, first, adds⟩ := adds_cons_iff.1 adds
    rw [Option.map_eq_none_iff.1 waits, readArguments_plain plain]
    exact except_bind_eq_ok_iff.2 ⟨middle, setInput_eq_ok_iff.2 first, ih adds rfl⟩
  | inputs texts =>
    rw [Option.map_eq_none_iff.1 waits]
    exact readInputs_eq_ok_iff.2 adds

/-- The reader accepts what is written in the language, and gives what is asked for. -/
theorem readArguments_eq_ok_iff {args : List String} :
    readArguments g pending args = .ok h ↔
      ∃ asked, Written (pending.map Prod.fst) args asked ∧ g.Adds asked h :=
  ⟨written_of_readArguments, fun ⟨_, written, adds⟩ => readArguments_of_written written adds rfl⟩

end Whole

theorem ofArguments_eq_ok_iff_given {args : List String} {options : Options} :
    Options.ofArguments args = .ok options ↔
      ∃ given, readArguments {} none args = .ok given ∧ given.options = options := by
  unfold Options.ofArguments
  cases readArguments {} none args <;> simp [Except.map]

/-- The options that arguments give are those that they select. -/
theorem ofArguments_eq_ok_iff {args : List String} {options : Options} :
    Options.ofArguments args = .ok options ↔ Selects args options := by
  simp only [ofArguments_eq_ok_iff_given, readArguments_eq_ok_iff, Selects, ← adds_iff_meantBy]
  constructor
  · rintro ⟨given, ⟨asked, written, adds⟩, same⟩
    exact ⟨asked, written, given, adds, same⟩
  · rintro ⟨asked, written, given, adds, same⟩
    exact ⟨given, ⟨asked, written, adds⟩, same⟩

example : Selects ["-vo=out", "--", "-x"]
    { input := ⟨"-x"⟩, outDir := ⟨"out"⟩, verbosity := 1 } :=
  ofArguments_eq_ok_iff.1 rfl

/-- A request to show the tokens in front of arguments adds itself to the options that they select,
and nothing else; it is accepted unless they ask for it too. -/
theorem selects_dumpTokens_iff {args : List String} {options : Options} :
    Selects ("--dump-tokens" :: args) options ↔
      options.dumpTokens = true ∧ Selects args { options with dumpTokens := false } := by
  have inFront : readArguments {} none ("--dump-tokens" :: args) =
      readArguments { dumpTokens := true } none args := rfl
  rw [← ofArguments_eq_ok_iff, ofArguments_eq_ok_iff_given, inFront]
  constructor
  · rintro ⟨given, read, rfl⟩
    obtain ⟨asked, written, adds⟩ := readArguments_eq_ok_iff.1 read
    obtain ⟨set, unasked⟩ := sets_true_iff.1 adds.dumpTokens
    have unset : Sets false (asked.count (.switch .dumpTokens)) false := by
      rw [unasked, sets_zero_iff]
    have without : Given.Adds {} asked { given with dumpTokens := false } :=
      { adds with dumpTokens := unset }
    exact ⟨set, asked, written, adds_iff_meantBy.1 ⟨_, without, rfl⟩⟩
  · rintro ⟨set, asked, written, meant⟩
    obtain ⟨given, adds, same⟩ := adds_iff_meantBy.2 meant
    have unasked : asked.count (.switch .dumpTokens) = 0 :=
      List.count_eq_zero.2 (mt meant.dumpTokens.2 Bool.false_ne_true)
    have shown : Given.Adds { dumpTokens := true } asked { given with dumpTokens := true } :=
      { adds with dumpTokens := sets_true_iff.2 ⟨rfl, unasked⟩ }
    refine ⟨_, readArguments_eq_ok_iff.2 ⟨asked, written, shown⟩, ?_⟩
    obtain ⟨i, o, f, ⟨d, s, n⟩, c, t, v⟩ := options
    simp_all [Given.options]

theorem Selects.unique {args : List String} {options options' : Options}
    (selected : Selects args options) (selected' : Selects args options') : options = options' :=
  Except.ok.inj ((ofArguments_eq_ok_iff.2 selected).symm.trans (ofArguments_eq_ok_iff.2 selected'))

end Pseudocode
