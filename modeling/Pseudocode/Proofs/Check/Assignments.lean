/-
  Pseudocode.Proofs.Check.Assignments — what an accepted assignment says of its names.

  An assignment looks at names in two ways. Its target counts as what the symbol table has it
  declared as, whatever kind its own occurrence carries. A name in the expression counts as the
  kind that its occurrence carries, whatever it was declared as. The two agree where the kinds were
  given out by the declarations; no check makes sure that they were.

  Proved:
  (1) Which identifiers the rule of a type lets occur (`AssignmentRule.allows_identifierKind`,
      `AssignmentRule.allows_generalId`).
  (2) When an assignment passes its check, if it is judged by its own statement
      (`fault?_checkAssignment_statement_eq_none_iff`).
  (3) Every name in an accepted expression for an int, a real or a string is known and carries a
      kind that the target admits; if it was declared as that kind, the target admits what it was
      declared as (`carriedTypes_of_assignment`).
  (4) A string and a program name that carry the kind of an int are assigned to an int
      (`declaredTypes_not_compared`).
-/

import Pseudocode.Proofs.Check.Resolution

namespace Pseudocode

/-! ## What a rule lets occur -/

/-- Whether an identifier of a type may occur in an expression for a target of a type. -/
def ValueType.admits : ValueType → ValueType → Bool
  | .int, .int => true
  | .real, .int => true
  | .real, .real => true
  | .string, .string => true
  | .boolean, _ => true
  | _, _ => false

namespace AssignmentRule

/-- Whether a rule lets a kind occur. -/
def allows : AssignmentRule → Kind → Bool
  | .forbid kinds, k => !kinds.contains k
  | .require _, _ => true

theorem allows_of_violation? {rule : AssignmentRule} {found : KindSet} {k : Kind}
    (kept : rule.violation? found = none) (mem : found.contains k = true) :
    rule.allows k = true := by
  cases rule with
  | forbid kinds =>
    rw [allows, violation?_forbid_eq_none_iff.1 kept k mem]
    rfl
  | require kinds => rfl

theorem allows_identifierKind (type carried : ValueType) :
    (ofType type).allows carried.identifierKind = type.admits carried := by
  cases type <;> cases carried <;> decide

theorem allows_generalId {type : ValueType} (limited : type ≠ .boolean) :
    (ofType type).allows .generalId = false := by
  cases type with
  | boolean => exact absurd rfl limited
  | _ => decide

theorem exists_admitted_of_allows {type : ValueType} {k : Kind} (limited : type ≠ .boolean)
    (hid : k.isIdentifier = true) (allowed : (ofType type).allows k = true) :
    ∃ carried, k.valueType? = some carried ∧ type.admits carried = true := by
  rcases Kind.isIdentifier_iff.1 hid with typed | rfl
  · obtain ⟨carried, hv⟩ := Option.isSome_iff_exists.1 typed
    rw [← ValueType.identifierKind_of_valueType? hv, allows_identifierKind] at allowed
    exact ⟨carried, hv, allowed⟩
  · rw [allows_generalId limited] at allowed
    cases allowed

end AssignmentRule

/-! ## Where an expression ends -/

/-- At `s` stands the first semicolon from `start` on. -/
structure EndsAt (tokens : List Token) (start s : Nat) : Prop where
  le : start ≤ s
  semicolon : ∃ t, tokens[s]? = some t ∧ t.isSemicolon = true
  before : ∀ j, start ≤ j → j < s → ∀ t, tokens[j]? = some t → t.isSemicolon = false

/-- Every identifier of an expression has a property: the expression starts at `start` and ends in
front of the first semicolon, which there is. -/
def ExpressionNames (tokens : List Token) (start : Nat) (p : Token → Prop) : Prop :=
  ∃ s, EndsAt tokens start s ∧
    ∀ j, start ≤ j → j < s → ∀ t, tokens[j]? = some t → t.isIdentifier = true → p t

theorem getElem?_add_of_drop {tokens rest : List Token} {start : Nat}
    (h : tokens.drop start = rest) (x : Nat) : tokens[start + x]? = rest[x]? := by
  rw [← h, List.getElem?_drop]

/-- The expression that is found holds every token up to the semicolon that ends it. -/
theorem exists_endsAt {tokens expression : List Token} {start : Nat}
    (found : beforeSemicolon (tokens.drop start) = some expression) :
    ∃ s, EndsAt tokens start s ∧
      ∀ j, start ≤ j → j < s → ∀ t, tokens[j]? = some t → t ∈ expression := by
  obtain ⟨none, last, rest, split, semicolon⟩ := beforeSemicolon_eq_some_iff.1 found
  have inside : ∀ j, start ≤ j → j < start + expression.length → ∀ t, tokens[j]? = some t →
      t ∈ expression := by
    intro j le lt t ht
    obtain ⟨x, rfl⟩ := Nat.exists_eq_add_of_le le
    rw [getElem?_add_of_drop split, List.getElem?_append_left (by omega)] at ht
    exact List.mem_of_getElem? ht
  refine ⟨start + expression.length, ⟨Nat.le_add_right _ _, ⟨last, ?_, semicolon⟩, ?_⟩, inside⟩
  · rw [getElem?_add_of_drop split, List.getElem?_append_right (Nat.le_refl _), Nat.sub_self]
    rfl
  · intro j le lt t ht
    exact none t (inside j le lt t ht)

/-! ## Accepted assignments -/

/-- An assignment that is judged by its own statement passes when it ends, its target has a type,
and its expression keeps the rule of that type. -/
theorem fault?_checkAssignment_statement_eq_none_iff {tokens : List Token} {i : Nat} {t : Token}
    {target : Option ValueType} :
    (checkAssignment .statement tokens i t target).fault? = none ↔
      ∃ expression type, beforeSemicolon (tokens.drop (i + 2)) = some expression ∧
        target = some type ∧
        (AssignmentRule.ofType type).violation? (kindsOf expression) = none := by
  rw [Traced.fault?_eq_none_iff]
  unfold checkAssignment
  cases beforeSemicolon (tokens.drop (i + 2)) with
  | none => simp
  | some expression =>
    cases target with
    | none => simp
    | some type =>
      cases broken : (AssignmentRule.ofType type).violation? (kindsOf expression) <;>
        simp [judgeAssignment, broken]

/-- What is known of an identifier in an expression for a target of a type: its name is known, and
its own kind is one that the target admits. So is the kind of its declaration, if it is the same. -/
structure Admitted (symbols : SymbolTable) (type : ValueType) (t : Token) : Prop where
  known : symbols.isKnown t.lexeme = true
  carried : ∃ carried, t.kind.valueType? = some carried ∧ type.admits carried = true
  declared : symbols.typeOf? t.lexeme = t.kind.valueType? →
    ∃ declared, symbols.typeOf? t.lexeme = some declared ∧ type.admits declared = true

/-- An accepted assignment to a name that is declared an int, a real or a string has an expression,
and each identifier in it carries a kind that the target admits. -/
theorem carriedTypes_of_assignment {settings : Settings} {tokens : List Token} {a : Analysis}
    {m i : Nat} {t : Token} {type : ValueType} (h : (analyze settings tokens).outcome = .ok a)
    (scan : settings.scan = .statement) (hm : tokens.findIdx? Token.isBegin = some m)
    (starts : startsAssignmentAt tokens m i = true) (ht : tokens[i]? = some t)
    (target : a.symbols.typeOf? t.lexeme = some type) (limited : type ≠ .boolean) :
    ExpressionNames tokens (i + 2) (Admitted a.symbols type) := by
  obtain ⟨quiet, rfl⟩ := (outcome_analyze_eq_ok_iff_of_begin hm).1 h
  simp only [startsAssignmentAt, isReferenceAt, ht, Option.any_some, Bool.and_eq_true,
    decide_eq_true_eq] at starts
  obtain ⟨⟨le, hid⟩, follows⟩ := starts
  have passes := fault?_checkAssignment_of_quiet (quiet i) le ht hid follows
  rw [scan, fault?_checkAssignment_statement_eq_none_iff] at passes
  obtain ⟨expression, type', found, target', kept⟩ := passes
  obtain rfl : type' = type := Option.some.inj (target'.symm.trans target)
  obtain ⟨s, ends, inside⟩ := exists_endsAt found
  refine ⟨s, ends, ?_⟩
  intro j le lt u hu uid
  have occurs : (kindsOf expression).contains u.kind = true :=
    contains_kindsOf.2 ⟨u, inside j le lt u hu, rfl⟩
  obtain ⟨carried, hv, admitted⟩ := AssignmentRule.exists_admitted_of_allows limited uid
    (AssignmentRule.allows_of_violation? kept occurs)
  refine ⟨isKnown_of_quiet (quiet j) hu uid, ⟨carried, hv, admitted⟩, ?_⟩
  intro same
  exact ⟨carried, same.trans hv, admitted⟩

/-- Declares an int and a real, and assigns `r * n` to the real `r`, which the assignment itself
takes for an int. -/
def mixedProgram : List Token :=
  [.plain .intId "n" 1, .plain .intKw "int" 1, .plain .semicolon ";" 1,
    .plain .realId "r" 2, .plain .realKw "real" 2, .plain .semicolon ";" 2,
    .plain .beginKw "begin" 3,
    .plain .intId "r" 4, .plain .assign "=" 4, .plain .realId "r" 4, .plain .mul "*" 4,
    .plain .intId "n" 4, .plain .semicolon ";" 4]

/-- The target counts as the real that it was declared, so both a real and an int may be
assigned to it. -/
theorem carriedTypes_of_mixedProgram :
    ∃ a, (analyze {} mixedProgram).outcome = .ok a ∧ a.symbols.typeOf? "r" = some .real ∧
      ExpressionNames mixedProgram 9 (Admitted a.symbols .real) := by
  have h : (analyze {} mixedProgram).outcome = .ok (analysisOf {} mixedProgram 6) := rfl
  have target : (analysisOf {} mixedProgram 6).symbols.typeOf? "r" = some .real := by decide
  exact ⟨_, h, target, carriedTypes_of_assignment (m := 6) (i := 7) h rfl (by decide) (by decide)
    rfl target (by decide)⟩

/-- Assigns `s + demo` to an int. One is declared a string and the other names the program, but
both carry the kind of an int. -/
def disguisedProgram : List Token :=
  [.plain .generalId "demo" 1, .plain .semicolon ";" 1,
    .plain .intId "n" 2, .plain .intKw "int" 2, .plain .semicolon ";" 2,
    .plain .stringId "s" 3, .plain .stringKw "string" 3, .plain .semicolon ";" 3,
    .plain .beginKw "begin" 4,
    .plain .intId "n" 5, .plain .assign "=" 5, .plain .intId "s" 5, .plain .add "+" 5,
    .plain .intId "demo" 5, .plain .semicolon ";" 5]

/-- The declared types of an expression are not compared with the target: to an int a string is
assigned, and a program name, which has no type at all. -/
theorem declaredTypes_not_compared :
    ∃ a, (analyze {} disguisedProgram).outcome = .ok a ∧
      startsAssignmentAt disguisedProgram 8 9 = true ∧ a.symbols.typeOf? "n" = some .int ∧
      disguisedProgram[11]? = some (.plain .intId "s" 5) ∧ a.symbols.typeOf? "s" = some .string ∧
      disguisedProgram[13]? = some (.plain .intId "demo" 5) ∧ a.symbols.typeOf? "demo" = none ∧
      ¬ ExpressionNames disguisedProgram 11 fun t =>
        ∃ declared, a.symbols.typeOf? t.lexeme = some declared ∧
          ValueType.int.admits declared = true := by
  have h : (analyze {} disguisedProgram).outcome = .ok (analysisOf {} disguisedProgram 8) := rfl
  have string : (analysisOf {} disguisedProgram 8).symbols.typeOf? "s" = some .string := by decide
  refine ⟨_, h, by decide, by decide, rfl, string, rfl, by decide, ?_⟩
  rintro ⟨s, ends, admitted⟩
  have behind : 11 < s := by
    refine Nat.lt_of_le_of_ne ends.le ?_
    rintro rfl
    obtain ⟨t, ht, semicolon⟩ := ends.semicolon
    cases ht
    cases semicolon
  obtain ⟨declared, hd, admits⟩ := admitted 11 (Nat.le_refl _) behind (.plain .intId "s" 5) rfl rfl
  cases string.symm.trans hd
  cases admits

end Pseudocode
