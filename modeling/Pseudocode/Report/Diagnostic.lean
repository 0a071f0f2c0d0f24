/-
  Pseudocode.Report.Diagnostic — a fault made ready to be shown.

  A diagnostic has a title, which tells faults of the token stream from faults of the program, and
  the broken rule as its code. A fault that points at bytes of a file is said beside those bytes,
  in a label; any other fault is said in a note. A fault of a token also notes its program line.

  - `label?_isSome_iff`: there is a label exactly when the fault has a span that is not empty.
-/

import Pseudocode.Fault

namespace Pseudocode

/-- A message beside the bytes of a file that it is about. -/
structure Label where
  file : Nat
  span : Span
  message : String
  deriving DecidableEq, Repr

structure Diagnostic where
  title : String
  code : String
  label? : Option Label
  notes : List String
  deriving DecidableEq, Repr

namespace Fault

def title (f : Fault) : String :=
  if f.isStructural then "Malformed token stream" else "Semantic error"

/-- The span of a fault, unless it is empty. -/
def shownSpan? (f : Fault) : Option Span := f.span?.filter (!·.isEmpty)

/-- The diagnostic of a fault found in a file. -/
def diagnostic (f : Fault) (file : Nat) : Diagnostic :=
  let lineNote := (f.line?.map fun n => s!"program line {n}").toList
  match f.shownSpan? with
  | some span =>
    { title := f.title, code := f.rule, label? := some ⟨file, span, f.message⟩, notes := lineNote }
  | none => { title := f.title, code := f.rule, label? := none, notes := f.message :: lineNote }

theorem label?_isSome_iff {f : Fault} {file : Nat} :
    (f.diagnostic file).label?.isSome = true ↔ ∃ s, f.span? = some s ∧ s.isEmpty = false := by
  have cases_ : (f.diagnostic file).label?.isSome = f.shownSpan?.isSome := by
    unfold diagnostic
    cases f.shownSpan? <;> rfl
  rw [cases_, shownSpan?, Option.isSome_iff_exists]
  simp [Option.filter_eq_some_iff]

end Fault

end Pseudocode
