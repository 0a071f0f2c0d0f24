/-
  Pseudocode.Stream.Span — ranges of bytes in a record file.

  A span runs from its first byte up to, and not including, its end. A span whose end is not
  beyond its start is empty and points nowhere; tokens that no file holds have such a span.
-/

namespace Pseudocode

/-- Bytes `start` up to `stop` of a file. -/
structure Span where
  start : Nat
  stop : Nat
  deriving DecidableEq, Repr

namespace Span

/-- The span of what stands in no file. -/
def nowhere : Span := ⟨0, 0⟩

def isEmpty (s : Span) : Bool := s.stop ≤ s.start

end Span

end Pseudocode
