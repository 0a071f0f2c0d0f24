/-
  Pseudocode.Output.TokenDump — tokens shown field by field.

  A dump shows every field of every token, between two marker lines. Lexemes are quoted with
  escapes, so that a dump has one line for each token whatever the lexemes hold.
-/

import Pseudocode.Stream.Token
import Pseudocode.Text.Quoted

namespace Pseudocode

def Span.dump (s : Span) : String := s!"Span \x7b start: {s.start}, end: {s.stop} \x7d"

/-- An address that may be missing, as a dump shows it. -/
def dumpAddress : Option Nat → String
  | none => "None"
  | some address => s!"Some({address})"

def Token.dump (t : Token) : String :=
  s!"Token \x7b kind: {t.kind.label}, lexeme: {Text.quoted t.lexeme}, line: {t.line}, " ++
    s!"position: {t.position}, resolved: {dumpAddress t.resolved}, span: {t.span.dump} \x7d"

/-- The dump of a stream. -/
def dumpTokens (tokens : List Token) : String :=
  "=== Tokens ===\n" ++ String.join (tokens.map (·.dump ++ "\n")) ++ "=== End Tokens ===\n\n"

end Pseudocode
