/-
  Pseudocode.Proofs.Check.Extension — a stream, and a longer one that begins with it.

  The analysis looks ahead: from an assignment to its semicolon, from a condition to the token that
  closes it, from an identifier to the token behind it. A look-ahead that has found what it looked
  for stops at the same token in every longer stream. One that ran off the end may find more, but
  then its fault is structural. So a check that is settled, by passing or by a fault of the program,
  stays settled the same way (`fault?_checkAssignment_append`, `fault?_checkCondition_append`).
  What remains open is the last token of a stream: if it is an identifier, the next token tells
  whether it starts an assignment.

  Proved:
  (1) The declarations do not see what stands behind the body-begin keyword: neither their checks
      (`faultAt?_append_of_lt`) nor the tables they leave (`tableAt_append`, `programAt?_append`).
  (2) A settled position of the body in front of the last token is settled the same way in every
      extension (`referenceFault?_append`), and so is every fault of the program
      (`faultAt?_append_of_fault`).
  (3) What an analysis of a stream leaves to the analysis of an extension
      (`verdict_of_extension`).
-/

import Pseudocode.Proofs.Check.Verdict

namespace Pseudocode

/-- A check that has its answer: it passes, or it finds a fault of the program. -/
def Settled (fault? : Option Fault) : Prop :=
  ∀ fault, fault? = some fault → fault.isStructural = false

theorem settled_none : Settled none := by
  intro fault h
  cases h

/-- The first of two checks decides before the second, so it is settled when they are. -/
theorem Settled.left {first second : Option Fault} (h : Settled (first.or second)) :
    Settled first := by
  intro fault e
  exact h fault (by rw [e, Option.some_or])

theorem Settled.right {first second : Option Fault} (h : Settled (first.or second))
    (passed : first = none) : Settled second := by
  intro fault e
  exact h fault (by rw [passed, Option.none_or, e])

section Extension

variable {settings : Settings} {tokens : List Token} (more : List Token)

theorem getElem?_append_of_some {i : Nat} {t : Token} (ht : tokens[i]? = some t) :
    (tokens ++ more)[i]? = some t := by
  obtain ⟨lt, -⟩ := List.getElem?_eq_some_iff.1 ht
  rw [List.getElem?_append_left lt, ht]

/-! ## Look-aheads -/

theorem beforeSemicolon_append {before : List Token} (h : beforeSemicolon tokens = some before) :
    beforeSemicolon (tokens ++ more) = some before := by
  obtain ⟨none, t, rest, rfl, ht⟩ := beforeSemicolon_eq_some_iff.1 h
  refine beforeSemicolon_eq_some_iff.2 ⟨none, t, rest ++ more, ?_, ht⟩
  simp

/-- A semicolon that is found from `i` on is found from there in every extension. -/
theorem beforeSemicolon_drop_append {i : Nat} {before : List Token}
    (h : beforeSemicolon (tokens.drop i) = some before) :
    beforeSemicolon ((tokens ++ more).drop i) = some before := by
  by_cases le : i ≤ tokens.length
  · rw [List.drop_append_of_le_length le]
    exact beforeSemicolon_append more h
  · rw [List.drop_eq_nil_of_le (by omega)] at h
    cases h

theorem conditionEnd?_append {construct : Construct} {start last : Nat}
    (h : conditionEnd? construct tokens start = some last) :
    conditionEnd? construct (tokens ++ more) start = some last := by
  obtain ⟨le, ⟨t, ht, closes⟩, before⟩ := conditionEnd?_eq_some_iff.1 h
  refine conditionEnd?_eq_some_iff.2 ⟨le, ⟨t, getElem?_append_of_some more ht, closes⟩, ?_⟩
  intro i hi lt u hu
  obtain ⟨inside, -⟩ := List.getElem?_eq_some_iff.1 ht
  rw [List.getElem?_append_left (by omega)] at hu
  exact before i hi lt u hu

/-- The token that closes a condition stands behind the condition's last one. -/
theorem lt_length_of_conditionEnd? {construct : Construct} {start last : Nat}
    (h : conditionEnd? construct tokens start = some last) : last + 1 < tokens.length := by
  obtain ⟨-, ⟨t, ht, -⟩, -⟩ := conditionEnd?_eq_some_iff.1 h
  obtain ⟨inside, -⟩ := List.getElem?_eq_some_iff.1 ht
  have far := construct.two_le_closingDistance
  omega

theorem tokensFrom_append {start last : Nat} (le : start ≤ last) (lt : last < tokens.length) :
    tokensFrom (tokens ++ more) start last = tokensFrom tokens start last := by
  unfold tokensFrom
  rw [List.drop_append_of_le_length (by omega), List.take_append_of_le_length]
  rw [List.length_drop]
  omega

/-! ## Settled checks -/

theorem fault?_checkAssignment_append {scan : AssignmentScan} {i : Nat} {t : Token}
    {target : Option ValueType} (h : Settled (checkAssignment scan tokens i t target).fault?) :
    (checkAssignment scan (tokens ++ more) i t target).fault? =
      (checkAssignment scan tokens i t target).fault? := by
  cases scan with
  | statement =>
    cases found : beforeSemicolon (tokens.drop (i + 2)) with
    | none =>
      have open_ : (checkAssignment .statement tokens i t target).fault? =
          some (.unterminated t.place "';' ending the assignment") := by
        simp only [checkAssignment, found]
        rfl
      cases h _ open_
    | some expression =>
      simp only [checkAssignment, found, beforeSemicolon_drop_append more found]
  | leading =>
    cases found : beforeSemicolon tokens with
    | none =>
      have open_ : (checkAssignment .leading tokens i t target).fault? =
          some (.unterminated t.place "the first ';' of the stream") := by
        simp only [checkAssignment, found]
        rfl
      cases h _ open_
    | some statement =>
      -- the stream holds a semicolon, so its first token is its own
      have head : (tokens ++ more).head? = tokens.head? := by
        cases tokens with
        | nil => cases found
        | cons first rest => rfl
      simp only [checkAssignment, found, beforeSemicolon_append more found, head]

theorem exists_conditionEnd?_of_settled {construct : Construct} {i : Nat} {t : Token}
    (h : Settled (checkCondition construct tokens i t).fault?) :
    ∃ last, conditionEnd? construct tokens i = some last := by
  cases found : conditionEnd? construct tokens i with
  | some last => exact ⟨last, rfl⟩
  | none =>
    have open_ : (checkCondition construct tokens i t).fault? =
        some (.unterminated t.place construct.terminator) := by
      simp only [checkCondition, found]
      rfl
    cases h _ open_

theorem fault?_checkCondition_append {construct : Construct} {i : Nat} {t : Token}
    (h : Settled (checkCondition construct tokens i t).fault?) :
    (checkCondition construct (tokens ++ more) i t).fault? =
      (checkCondition construct tokens i t).fault? := by
  obtain ⟨last, found⟩ := exists_conditionEnd?_of_settled h
  obtain ⟨le, -, -⟩ := conditionEnd?_eq_some_iff.1 found
  have lt := lt_length_of_conditionEnd? found
  simp only [checkCondition, found, conditionEnd?_append more found,
    tokensFrom_append more le (by omega : last < tokens.length)]

/-! ## Positions of the declarations -/

section Declarations

variable {m i : Nat} (le : m ≤ tokens.length)

include le

theorem announcement?_append :
    announcement? (tokens ++ more) i m = announcement? tokens i m := by
  have same : nextSemicolon? (tokens ++ more) i m = nextSemicolon? tokens i m := by
    unfold nextSemicolon?
    rw [List.take_append_of_le_length le]
  unfold announcement?
  rw [same]
  cases found : nextSemicolon? tokens i m with
  | none => rfl
  | some semicolon =>
    obtain ⟨-, inside, -⟩ := lt_of_nextSemicolon? found
    show (tokens ++ more)[semicolon - 1]? = tokens[semicolon - 1]?
    exact List.getElem?_append_left (by omega)

variable (lt : i < m)

include lt

/-- The checks of the declarations do not see what stands behind them. -/
theorem faultAt?_append_of_lt :
    faultAt? settings (tokens ++ more) m i = faultAt? settings tokens m i := by
  unfold faultAt?
  rw [List.getElem?_append_left (by omega)]
  unfold declarationFault?
  simp only [lt, if_true, announcement?_append more le,
    List.take_append_of_le_length (by omega : i ≤ tokens.length)]

theorem requestAt?_append :
    requestAt? settings (tokens ++ more) i = requestAt? settings tokens i := by
  unfold requestAt?
  rw [List.getElem?_append_left (by omega), List.take_append_of_le_length (by omega)]

theorem programAt?_append : programAt? (tokens ++ more) i = programAt? tokens i := by
  unfold programAt?
  rw [List.getElem?_append_left (by omega), List.take_append_of_le_length (by omega)]

end Declarations

theorem tableAt_append {m : Nat} (le : m ≤ tokens.length) :
    tableAt settings (tokens ++ more) m = tableAt settings tokens m := by
  unfold tableAt requests
  congr 1
  apply List.filterMap_congr
  intro i hi
  exact requestAt?_append more le (List.mem_range.1 hi)

/-! ## Positions of the body -/

section Body

variable {m i : Nat} {t : Token}

theorem keywordBefore?_append (lt : i < tokens.length) :
    keywordBefore? (tokens ++ more) i = keywordBefore? tokens i := by
  unfold keywordBefore?
  rw [List.getElem?_append_left (by omega)]

theorem assignmentFault?_append {scan : AssignmentScan} {target : Option ValueType}
    (lt : i + 1 < tokens.length) (h : Settled (assignmentFault? scan tokens i t target)) :
    assignmentFault? scan (tokens ++ more) i t target =
      assignmentFault? scan tokens i t target := by
  unfold assignmentFault? at h ⊢
  rw [List.getElem?_append_left lt]
  split
  · rename_i assigned
    rw [if_pos assigned] at h
    exact fault?_checkAssignment_append more h
  · rfl

theorem conditionFault?_append (lt : i < tokens.length)
    (h : Settled (conditionFault? tokens i t)) :
    conditionFault? (tokens ++ more) i t = conditionFault? tokens i t := by
  unfold conditionFault? at h ⊢
  rw [keywordBefore?_append more lt]
  cases keyword : keywordBefore? tokens i with
  | none => rfl
  | some construct =>
    rw [keyword] at h
    exact fault?_checkCondition_append more h

/-- A settled identifier that is not the last token is settled the same way in every extension. -/
theorem referenceFault?_append (le : m ≤ tokens.length) (lt : i + 1 < tokens.length)
    (h : Settled (referenceFault? settings tokens m i t)) :
    referenceFault? settings (tokens ++ more) m i t = referenceFault? settings tokens m i t := by
  unfold referenceFault? at h ⊢
  rw [List.take_append_of_le_length le]
  cases known : introducer? (tokens.take m) t.lexeme with
  | none => rfl
  | some first =>
    rw [known] at h
    simp only at h ⊢
    rw [assignmentFault?_append more lt h.left]
    cases assigned : assignmentFault? settings.scan tokens i t first.kind.valueType? with
    | some fault => rfl
    | none => rw [conditionFault?_append more (by omega) (h.right assigned)]

/-- A known identifier with a fault of the program is not the last token: its assignment or its
condition was read to the end. -/
theorem lt_length_of_referenceFault? {fault : Fault} {first : Token}
    (known : introducer? (tokens.take m) t.lexeme = some first)
    (h : referenceFault? settings tokens m i t = some fault)
    (settled : fault.isStructural = false) : i + 1 < tokens.length := by
  unfold referenceFault? at h
  rw [known] at h
  simp only at h
  rcases Option.or_eq_some_iff.1 h with assigned | ⟨-, tested⟩
  · unfold assignmentFault? at assigned
    split at assigned
    · rename_i follows
      by_contra far
      rw [List.getElem?_eq_none (by omega)] at follows
      cases follows
    · cases assigned
  · unfold conditionFault? at tested
    obtain ⟨construct, -, tested⟩ := Option.bind_eq_some_iff.1 tested
    have h : Settled (checkCondition construct tokens i t).fault? := by
      intro other e
      rw [tested] at e
      cases e
      exact settled
    obtain ⟨last, found⟩ := exists_conditionEnd?_of_settled h
    obtain ⟨le, -, -⟩ := conditionEnd?_eq_some_iff.1 found
    have := lt_length_of_conditionEnd? found
    omega

/-- An identifier with a fault of the program has it in every extension. -/
theorem referenceFault?_append_of_fault {fault : Fault} (le : m ≤ tokens.length)
    (h : referenceFault? settings tokens m i t = some fault)
    (settled : fault.isStructural = false) :
    referenceFault? settings (tokens ++ more) m i t = some fault := by
  cases known : introducer? (tokens.take m) t.lexeme with
  | none =>
    unfold referenceFault? at h ⊢
    rw [List.take_append_of_le_length le]
    rwa [known] at h ⊢
  | some first =>
    have lt := lt_length_of_referenceFault? known h settled
    rw [referenceFault?_append more le lt, h]
    intro other e
    rw [h] at e
    cases e
    exact settled

end Body

/-! ## All positions -/

section Positions

variable {m i : Nat} (le : m ≤ tokens.length)

include le

/-- A position without a fault has none in any extension, unless an identifier ends the stream
there. -/
theorem faultAt?_append_of_none (lt : i < tokens.length)
    (closed : ∀ t, tokens[i]? = some t → t.isIdentifier = true → i + 1 < tokens.length)
    (h : faultAt? settings tokens m i = none) : faultAt? settings (tokens ++ more) m i = none := by
  rcases Nat.lt_or_ge i m with early | late
  · rw [faultAt?_append_of_lt more le early, h]
  · obtain ⟨t, ht⟩ : ∃ t, tokens[i]? = some t := ⟨_, List.getElem?_eq_getElem lt⟩
    have notEarly : ¬ i < m := by omega
    unfold faultAt? at h ⊢
    rw [getElem?_append_of_some more ht]
    rw [ht] at h
    simp only [Option.bind_some, notEarly, if_false] at h ⊢
    split
    · rename_i hid
      rw [if_pos hid] at h
      rw [referenceFault?_append more le (closed t ht hid), h]
      rw [h]
      exact settled_none
    · rfl

/-- A fault of the program stays where it is in every extension. -/
theorem faultAt?_append_of_fault {fault : Fault} (h : faultAt? settings tokens m i = some fault)
    (settled : fault.isStructural = false) :
    faultAt? settings (tokens ++ more) m i = some fault := by
  rcases Nat.lt_or_ge i m with early | late
  · rw [faultAt?_append_of_lt more le early, h]
  · have notEarly : ¬ i < m := by omega
    unfold faultAt? at h ⊢
    obtain ⟨t, ht, h⟩ := Option.bind_eq_some_iff.1 h
    rw [getElem?_append_of_some more ht]
    simp only [Option.bind_some, notEarly, if_false] at h ⊢
    split at h
    · rename_i hid
      rw [if_pos hid]
      exact referenceFault?_append_of_fault more le h settled
    · cases h

end Positions

/-! ## The analysis of an extension -/

theorem findIdx?_isBegin_append {m : Nat} (h : tokens.findIdx? Token.isBegin = some m) :
    (tokens ++ more).findIdx? Token.isBegin = some m := by
  rw [List.findIdx?_append, h, Option.some_or]

theorem le_length_of_findIdx? {m : Nat} (h : tokens.findIdx? Token.isBegin = some m) :
    m ≤ tokens.length := by
  obtain ⟨lt, -⟩ := List.findIdx?_eq_some_iff_getElem.1 h
  omega

/-- The tables of an extension are those of the stream, and so are its first tokens. -/
theorem analysisOf_append {m : Nat} (le : m ≤ tokens.length) :
    (analysisOf settings (tokens ++ more) m).symbols = (analysisOf settings tokens m).symbols ∧
      (analysisOf settings (tokens ++ more) m).programs =
        (analysisOf settings tokens m).programs ∧
      (analysisOf settings (tokens ++ more) m).tokens.take tokens.length =
        (analysisOf settings tokens m).tokens := by
  refine ⟨tableAt_append more le, ?_, ?_⟩
  · show AddressTable.mk _ = AddressTable.mk _
    congr 1
    apply List.filterMap_congr
    intro i hi
    exact programAt?_append more le (List.mem_range.1 hi)
  · show ((tokens ++ more).map _).take tokens.length = tokens.map _
    rw [tableAt_append more le, List.map_append, List.take_left' (List.length_map _)]

/-- Without a fault among the positions of a stream that ends with no identifier, the first fault of
an extension is about an identifier that was added. -/
theorem exists_added_of_faultAt? {m i : Nat} {fault : Fault} (le : m ≤ tokens.length)
    (quiet : ∀ j, faultAt? settings tokens m j = none)
    (closed : ∀ t, tokens.getLast? = some t → t.isIdentifier = false)
    (h : faultAt? settings (tokens ++ more) m i = some fault) :
    ∃ t ∈ more, t.isIdentifier = true ∧ fault.Blames t := by
  obtain ⟨t, ht, hid, place⟩ := exists_place_of_faultAt? h
  rcases Nat.lt_or_ge i tokens.length with inside | behind
  · have before (u : Token) (hu : tokens[i]? = some u) (huid : u.isIdentifier = true) :
        i + 1 < tokens.length := by
      by_contra far
      have last : tokens.getLast? = some u := by
        rw [List.getLast?_eq_getElem?, show tokens.length - 1 = i by omega, hu]
      rw [closed u last] at huid
      cases huid
    rw [faultAt?_append_of_none more le inside before (quiet i)] at h
    cases h
  · rw [List.getElem?_append_right behind] at ht
    exact ⟨t, List.mem_of_getElem? ht, hid, Fault.blames_of_place? place⟩

end Extension

/-- A fault of the program is the fault of every extension. A stream without a fault that ends with
no identifier leaves its tables and its tokens to every extension without a fault, and any fault of
an extension is about an identifier that was added. -/
theorem verdict_of_extension (settings : Settings) (tokens more : List Token) :
    (∀ fault, (analyze settings tokens).outcome = .error fault → fault.isStructural = false →
      (analyze settings (tokens ++ more)).outcome = .error fault) ∧
    (∀ a, (analyze settings tokens).outcome = .ok a →
      (∀ t, tokens.getLast? = some t → t.isIdentifier = false) →
      (∃ b, (analyze settings (tokens ++ more)).outcome = .ok b ∧ b.symbols = a.symbols ∧
        b.programs = a.programs ∧ b.tokens.take tokens.length = a.tokens) ∨
      ∃ fault, (analyze settings (tokens ++ more)).outcome = .error fault ∧
        ∃ t ∈ more, t.isIdentifier = true ∧ fault.Blames t) := by
  constructor
  · intro fault h settled
    rcases outcome_analyze_eq_error_iff.1 h with ⟨-, rfl⟩ | ⟨m, i, hm, here, before⟩
    · cases settled
    have le := le_length_of_findIdx? hm
    refine outcome_analyze_eq_error_iff.2 (.inr ⟨m, i, findIdx?_isBegin_append more hm,
      faultAt?_append_of_fault more le here settled, ?_⟩)
    intro j lt
    have inside : i < tokens.length := by
      by_contra far
      rw [faultAt?_of_length_le (by omega)] at here
      cases here
    refine faultAt?_append_of_none more le (by omega) ?_ (before j lt)
    intro t ht hid
    omega
  · intro a h closed
    obtain ⟨m, hm, quiet, rfl⟩ := outcome_analyze_eq_ok_iff.1 h
    have le := le_length_of_findIdx? hm
    have begins := findIdx?_isBegin_append more hm
    cases outcome : (analyze settings (tokens ++ more)).outcome with
    | ok b =>
      obtain ⟨m', hm', -, rfl⟩ := outcome_analyze_eq_ok_iff.1 outcome
      have : m' = m := Option.some.inj (hm'.symm.trans begins)
      subst this
      exact .inl ⟨_, rfl, analysisOf_append more le⟩
    | error fault =>
      refine .inr ⟨fault, rfl, ?_⟩
      rcases outcome_analyze_eq_error_iff.1 outcome with ⟨none, -⟩ | ⟨m', i, hm', here, -⟩
      · rw [begins] at none
        cases none
      · have : m' = m := Option.some.inj (hm'.symm.trans begins)
        subst this
        exact exists_added_of_faultAt? more le quiet closed here

/-- Declares `n` and opens a body in which `use` follows. -/
def counterProgram (use : List Token) : List Token :=
  [.plain .intId "n" 1, .plain .intKw "int" 1, .plain .semicolon ";" 1,
    .plain .beginKw "begin" 2] ++ use

/-- An unknown name is refused whatever follows, and behind a body that is accepted a condition
without an operator is refused at the variable that it starts with. -/
theorem verdict_of_extended_counterProgram :
    (analyze {} (counterProgram [.plain .intId "k" 3])).outcome =
        .error (.undeclared ⟨"k", 3, .nowhere⟩) ∧
      (analyze {} (counterProgram [.plain .intId "k" 3] ++
        [.plain .assign "=" 3, .plain .semicolon ";" 3])).outcome =
        .error (.undeclared ⟨"k", 3, .nowhere⟩) ∧
      ∃ fault, (analyze {} (counterProgram
          [.plain .intId "n" 3, .plain .assign "=" 3, .plain .intConst "5" 3,
            .plain .semicolon ";" 3] ++
          [.plain .untilKw "until" 4, .plain .leftParen "(" 4, .plain .intId "n" 4,
            .plain .rightParen ")" 4, .plain .semicolon ";" 4])).outcome = .error fault ∧
        fault.Blames (.plain .intId "n" 4) := by
  refine ⟨rfl, (verdict_of_extension {} _ _).1 _ rfl rfl, ?_⟩
  rcases (verdict_of_extension {} (counterProgram
      [.plain .intId "n" 3, .plain .assign "=" 3, .plain .intConst "5" 3,
        .plain .semicolon ";" 3])
      [.plain .untilKw "until" 4, .plain .leftParen "(" 4, .plain .intId "n" 4,
        .plain .rightParen ")" 4, .plain .semicolon ";" 4]).2 _ rfl (by decide)
    with ⟨b, h, -⟩ | ⟨fault, h, t, ht, hid, blames⟩
  · cases h
  · refine ⟨fault, h, ?_⟩
    have : t = .plain .intId "n" 4 := by
      simp only [List.mem_cons, List.not_mem_nil, or_false] at ht
      rcases ht with rfl | rfl | rfl | rfl | rfl
      · cases hid
      · cases hid
      · rfl
      · cases hid
      · cases hid
    exact this ▸ blames

end Pseudocode
