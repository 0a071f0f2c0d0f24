/-
  Pseudocode.Proofs.Stream.Provenance — the line that a fault comes from.

  A source is read and what is read is analysed. A fault of the reading carries the number and the
  bytes of the line that it stopped at. A fault of the analysis is about an identifier, and a token
  that was read carries the bytes of its line, through every scan of the analysis. So each fault
  points at one line of the source that is not blank (`Fault.PointsAt`), and says of it what the
  line itself says (`Fault.Explains`). Only a missing body points nowhere.

  Proved:
  (1) A line that is not blank is a place to point at: its span is in the source and not empty
      (`pointsAt_of_span`).
  (2) Where a fault of reading points (`pointsAt_of_readTokens`), and where a fault of the analysis
      does (`pointsAt_of_faultAt?`).
  (3) Every fault of a source but the missing body points at a line and explains it, and the body
      is missing exactly when every line that is not blank holds a record of another kind
      (`fault_provenance`).
-/

import Pseudocode.CommandLine.Run
import Pseudocode.Proofs.Check.Verdict
import Pseudocode.Proofs.Stream.Reading
import Pseudocode.Proofs.Stream.Records

namespace Pseudocode

open Text

/-- The span of a fault is a line of the source that is not blank: its bytes are the piece of the
source that the line's text is, at least one, and none of them ends a line. -/
structure Fault.PointsAt (f : Fault) (source : String) (l : Line) : Prop where
  line : l.IsLineOf source.toList
  notBlank : l.isBlank = false
  span : f.span? = some l.span
  bytes : ∃ before rest, source.toList = before ++ l.text ++ rest ∧
    l.span = ⟨byteLength before, byteLength (before ++ l.text)⟩
  nonempty : l.span.start < l.span.stop
  inside : l.span.stop ≤ source.utf8ByteSize
  oneLine : '\n' ∉ l.text

/-- What a fault says of the line that it points at. A malformed record has the line's number and
the reason why the line is refused, and no line in front of it is refused. Any other fault has the
lexeme and the program line of the identifier that the line records. -/
def Fault.Explains (f : Fault) (source : String) (l : Line) : Prop :=
  match f with
  | .malformedRecord record message _ =>
    record = l.number ∧
      (∃ cause, Record.parse l.span l.text = .error cause ∧ message = cause.message) ∧
      ∀ earlier : Line, earlier.IsLineOf source.toList → earlier.isBlank = false →
        earlier.number < l.number → ∃ t, Record.parse earlier.span earlier.text = .ok t
  | f =>
    ∃ t, Record.parse l.span l.text = .ok t ∧ t.isIdentifier = true ∧
      f.lexeme? = some t.lexeme ∧ f.line? = some t.line

section Provenance

variable {settings : Settings} {source : String} {tokens : List Token}

/-- A line that is not blank is a place to point at. -/
theorem pointsAt_of_span {f : Fault} {l : Line} (mem : l ∈ recordLines source)
    (span : f.span? = some l.span) : f.PointsAt source l := by
  obtain ⟨line, notBlank⟩ := mem_recordLines_iff.1 mem
  obtain ⟨before, rest, split, bytes, oneLine⟩ := exists_parts_of_isLineOf line
  exact ⟨line, notBlank, span, ⟨before, rest, split, bytes⟩, Line.start_lt_stop notBlank,
    Line.stop_le_of_isLineOf line, oneLine⟩

/-- A fault of reading is a malformed record, at the line that it stopped at. -/
theorem pointsAt_of_readTokens {f : Fault} (h : (readTokens source).outcome = .error f) :
    f ≠ .missingBody ∧ ∃ l, f.PointsAt source l ∧ f.Explains source l := by
  obtain ⟨l, mem, ⟨cause, rejected, rfl⟩, accepted⟩ := outcome_readTokens_eq_error_iff.1 h
  refine ⟨by simp, l, pointsAt_of_span mem rfl, rfl, ⟨cause, rejected, rfl⟩, ?_⟩
  intro earlier line notBlank lt
  exact accepted earlier (mem_recordLines_iff.2 ⟨line, notBlank⟩) lt

/-- A fault of the analysis is about the identifier that its line records. -/
theorem pointsAt_of_faultAt? {f : Fault} {m i : Nat}
    (read : (readTokens source).outcome = .ok tokens)
    (h : faultAt? settings tokens m i = some f) :
    f ≠ .missingBody ∧ ∃ l, f.PointsAt source l ∧ f.Explains source l := by
  obtain ⟨t, ht, hid, place⟩ := exists_place_of_faultAt? h
  obtain ⟨l, mem, parsed⟩ := exists_line_of_token read ht
  obtain ⟨span, -⟩ := Record.span_of_parse parsed
  have blames := Fault.blames_of_place? place
  have named : ∃ u, Record.parse l.span l.text = .ok u ∧ u.isIdentifier = true ∧
      f.lexeme? = some u.lexeme ∧ f.line? = some u.line :=
    ⟨t, parsed, hid, blames.lexeme, blames.line⟩
  refine ⟨?_, l, pointsAt_of_span mem (span ▸ blames.span), ?_⟩
  · intro e
    rw [e] at place
    cases place
  · cases f with
    | malformedRecord record message span => cases place
    | _ => exact named

/-- Wherever a source is refused, by reading or by the analysis, the fault points at a line. -/
theorem pointsAt_of_analyzeSource {f : Fault}
    (h : (analyzeSource settings source).outcome = .error f) (located : f ≠ .missingBody) :
    ∃ l, f.PointsAt source l ∧ f.Explains source l := by
  rw [outcome_analyzeSource] at h
  cases read : (readTokens source).outcome with
  | error fault =>
    rw [read, error_bind] at h
    cases h
    exact (pointsAt_of_readTokens read).2
  | ok tokens =>
    rw [read, ok_bind] at h
    rcases outcome_analyze_eq_error_iff.1 h with ⟨-, missing⟩ | ⟨m, i, -, here, -⟩
    · exact absurd missing located
    · exact (pointsAt_of_faultAt? read here).2

end Provenance

/-- Every fault of a source but the missing body points at one line that is not blank, and says of
it what it says itself; the body is missing exactly when every such line holds a record and none
of them opens a body. -/
theorem fault_provenance (settings : Settings) (source : String) :
    (∀ f, (analyzeSource settings source).outcome = .error f → f ≠ .missingBody →
      ∃ l, f.PointsAt source l ∧ f.Explains source l) ∧
    ((analyzeSource settings source).outcome = .error .missingBody ↔
      ∀ l : Line, l.IsLineOf source.toList → l.isBlank = false →
        ∃ t, Record.parse l.span l.text = .ok t ∧ t.kind ≠ .beginKw) := by
  rw [outcome_analyzeSource]
  cases read : (readTokens source).outcome with
  | error fault =>
    obtain ⟨located, l, points, explains⟩ := pointsAt_of_readTokens read
    rw [error_bind]
    constructor
    · intro f e _
      cases e
      exact ⟨l, points, explains⟩
    · constructor
      · intro e
        cases e
        exact absurd rfl located
      · intro all
        -- the line that was refused holds no record
        obtain ⟨l, mem, ⟨cause, rejected, -⟩, -⟩ := outcome_readTokens_eq_error_iff.1 read
        obtain ⟨line, notBlank⟩ := mem_recordLines_iff.1 mem
        obtain ⟨t, parsed, -⟩ := all l line notBlank
        cases rejected.symm.trans parsed
  | ok tokens =>
    rw [ok_bind]
    constructor
    · intro f h located
      rcases outcome_analyze_eq_error_iff.1 h with ⟨-, missing⟩ | ⟨m, i, -, here, -⟩
      · exact absurd missing located
      · exact (pointsAt_of_faultAt? read here).2
    · constructor
      · intro h l line notBlank
        obtain ⟨t, mem, parsed⟩ :=
          exists_token_of_line read (mem_recordLines_iff.2 ⟨line, notBlank⟩)
        rcases outcome_analyze_eq_error_iff.1 h with ⟨none, -⟩ | ⟨m, i, -, here, -⟩
        · refine ⟨t, parsed, ?_⟩
          have := List.findIdx?_eq_none_iff.1 none t mem
          simpa [Token.isBegin] using this
        · exact absurd rfl (pointsAt_of_faultAt? read here).1
      · intro all
        refine outcome_analyze_eq_error_iff.2 (.inl ⟨List.findIdx?_eq_none_iff.2 ?_, rfl⟩)
        intro t mem
        obtain ⟨i, ht⟩ := List.getElem?_of_mem mem
        obtain ⟨l, mem, parsed⟩ := exists_line_of_token read ht
        obtain ⟨line, notBlank⟩ := mem_recordLines_iff.1 mem
        obtain ⟨u, parsed', other⟩ := all l line notBlank
        cases parsed.symm.trans parsed'
        simpa [Token.isBegin] using other

/-- A body that uses a name of two bytes, behind an empty line, and nothing else. -/
def strayName : String := "-2, begin, -1, 1\n\n-51, ñ, -2, 2\r\n"

/-- A body behind which a record has two fields. -/
def cutRecord : String := "\n-2, begin, -1, 1\n \n-51, x\n"

/-- An unknown name points at the fourteen bytes of its record, a malformed record at line 4. -/
theorem provenance_of_strayName_of_cutRecord :
    (∃ l, (Fault.undeclared ⟨"ñ", 2, ⟨18, 32⟩⟩).PointsAt strayName l ∧
      (Fault.undeclared ⟨"ñ", 2, ⟨18, 32⟩⟩).Explains strayName l) ∧
    ∃ l, (Fault.malformedRecord 4 "expected 4 fields, found 2" ⟨20, 26⟩).PointsAt cutRecord l ∧
      (Fault.malformedRecord 4 "expected 4 fields, found 2" ⟨20, 26⟩).Explains cutRecord l := by
  constructor
  · exact (fault_provenance {} strayName).1 _ (by decide +kernel) (by decide)
  · exact (fault_provenance {} cutRecord).1 _ (by decide +kernel) (by decide)

end Pseudocode
