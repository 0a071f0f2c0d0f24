/-
  Pseudocode.Proofs.Check.Alike — what an analysis does not look at.

  A token carries a position of the lexer's, maybe an address from an earlier analysis, and the
  span of its record. `Token.bare` forgets the three. Streams that are alike, token by token, are
  renamed into each other by leaving every name as it is, so each position of the one has the fault
  of the other, up to the span that the fault shows. They get the same verdict, the same tables and
  the same counts. The tokens of the result differ as the streams do, and show the same addresses.

  Proved:
  (1) A fault moved to another place with the same lexeme and line says the same
      (`Fault.saysAs_of_moved`).
  (2) Alike streams have results that differ in their tokens only (`Alike.analysisOf_eq`).
  (3) What an analysis of a stream says about that of an alike one, when it succeeds
      (`outcome_analyze_of_alike`) and when it fails (`outcome_analyze_of_alike_of_fault`).
-/

import Pseudocode.Proofs.Check.Renaming

namespace Pseudocode

/-- A token without its position, its address and its span. -/
def Token.bare (t : Token) : Token :=
  { t with position := 0, resolved := none, span := .nowhere }

/-- Two faults that say the same, maybe of different records. -/
structure Fault.SaysAs (f g : Fault) : Prop where
  rule : f.rule = g.rule
  message : f.message = g.message
  line : f.line? = g.line?
  lexeme : f.lexeme? = g.lexeme?

theorem Fault.saysAs_of_moved {f : Fault} {p q : Place} (place : f.place? = some p)
    (lexeme : q.lexeme = p.lexeme) (line : q.line = p.line) : (f.renamed id q).SaysAs f := by
  obtain ⟨x, n, span⟩ := p
  obtain ⟨y, m, other⟩ := q
  obtain rfl : y = x := lexeme
  obtain rfl : m = n := line
  cases f <;> cases place <;> exact ⟨rfl, rfl, rfl, rfl⟩

/-- Settings say the same of names that are left as they are. -/
theorem Settings.renamesTo_id (s : Settings) : s.RenamesTo id s := ⟨fun _ => rfl, rfl, rfl⟩

/-- Two streams that differ in nothing but positions, addresses and spans. -/
def Alike (tokens others : List Token) : Prop :=
  tokens.map Token.bare = others.map Token.bare

section Alike

variable {settings : Settings} {tokens others : List Token} (h : Alike tokens others)

include h

theorem Alike.forall₂ : List.Forall₂ (fun t u => t.bare = u.bare) tokens others := by
  rwa [Alike, ← List.forall₂_eq_eq_eq, List.forall₂_map_left_iff,
    List.forall₂_map_right_iff] at h

theorem Alike.renamed : Renamed id tokens others := by
  refine h.forall₂.imp ?_
  intro t u same
  exact ⟨(congrArg Token.kind same).symm, (congrArg Token.lexeme same).symm⟩

theorem Alike.length_eq : tokens.length = others.length := List.Forall₂.length_eq h.renamed

theorem Alike.findIdx?_isBegin :
    others.findIdx? Token.isBegin = tokens.findIdx? Token.isBegin :=
  findIdx?_of_renamed h.renamed (· = .beginKw)

theorem Alike.faultAt?_eq_none {m i : Nat} (quiet : faultAt? settings tokens m i = none) :
    faultAt? settings others m i = none :=
  (faultAt?_eq_none_of_renamed Function.injective_id settings.renamesTo_id h.renamed).2 quiet

theorem Alike.tableAt_eq (settings : Settings) (m : Nat) :
    tableAt settings others m = tableAt settings tokens m := by
  have request (i : Nat) : requestAt? settings others i = requestAt? settings tokens i := by
    rw [requestAt?_of_renamed settings.renamesTo_id h.renamed]
    cases requestAt? settings tokens i with
    | none => rfl
    | some request => cases request <;> simp [Request.renamed, renamedScope]
  unfold tableAt requests
  rw [funext request]

theorem Alike.programAt?_eq (i : Nat) : programAt? others i = programAt? tokens i := by
  rcases cases_of_rel (rel_getElem? h.forall₂ i) with ⟨ht, hu⟩ | ⟨t, u, ht, hu, same⟩
  · rw [programAt?, programAt?, ht, hu]
    rfl
  · have line : u.line = t.line := (congrArg Token.line same).symm
    rw [programAt?_of_renamed Function.injective_id h.renamed hu, line]
    unfold programAt?
    rw [ht, Option.bind_some]
    split <;> rfl

/-- The results for alike streams differ in their tokens only. -/
theorem Alike.analysisOf_eq (m : Nat) :
    analysisOf settings others m =
      { analysisOf settings tokens m with
        tokens := others.map (annotate (analysisOf settings tokens m).symbols) } := by
  have tally : bodyTally others m others.length = bodyTally tokens m tokens.length := by
    rw [bodyTally_of_renamed h.renamed, h.length_eq]
  simp only [analysisOf, declaredState, h.tableAt_eq, funext h.programAt?_eq, tally]

/-- A stream that is like one without a fault has none, and the result differs in its tokens
only. -/
theorem outcome_analyze_of_alike {a : Analysis} (ok : (analyze settings tokens).outcome = .ok a) :
    (analyze settings others).outcome =
      .ok { a with tokens := others.map (annotate a.symbols) } := by
  obtain ⟨m, hm, quiet, rfl⟩ := outcome_analyze_eq_ok_iff.1 ok
  refine outcome_analyze_eq_ok_iff.2 ⟨m, ?_, ?_, ?_⟩
  · rw [h.findIdx?_isBegin, hm]
  · intro i
    exact h.faultAt?_eq_none (quiet i)
  · rw [h.analysisOf_eq]

/-- A stream that is like one with a fault has a fault that says the same. -/
theorem outcome_analyze_of_alike_of_fault {fault : Fault}
    (error : (analyze settings tokens).outcome = .error fault) :
    ∃ other, (analyze settings others).outcome = .error other ∧ other.SaysAs fault := by
  rcases outcome_analyze_eq_error_iff.1 error with ⟨none, rfl⟩ | ⟨m, i, hm, here, before⟩
  · refine ⟨.missingBody, outcome_analyze_eq_error_iff.2 (.inl ⟨?_, rfl⟩),
      ⟨rfl, rfl, rfl, rfl⟩⟩
    rw [h.findIdx?_isBegin, none]
  · obtain ⟨t, ht, -, place⟩ := exists_place_of_faultAt? here
    rcases cases_of_rel (rel_getElem? h.forall₂ i) with ⟨ht', -⟩ | ⟨t', u, ht', hu, same⟩
    · rw [ht'] at ht
      cases ht
    · obtain rfl : t' = t := Option.some.inj (ht'.symm.trans ht)
      have there : faultAt? settings others m i = some (fault.renamed id u.place) := by
        rw [faultAt?_of_renamed Function.injective_id settings.renamesTo_id h.renamed ht hu, here,
          Option.map_some]
      refine ⟨_, outcome_analyze_eq_error_iff.2 (.inr ⟨m, i, ?_, there, ?_⟩),
        Fault.saysAs_of_moved place ?_ ?_⟩
      · rw [h.findIdx?_isBegin, hm]
      · intro j lt
        exact h.faultAt?_eq_none (before j lt)
      · exact (congrArg Token.lexeme same).symm
      · exact (congrArg Token.line same).symm

end Alike

end Pseudocode
