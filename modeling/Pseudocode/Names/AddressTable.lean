/-
  Pseudocode.Names.AddressTable — the program names and the scopes they open.

  Each new program name is recorded with its line. Each occurrence of a program name, new or not,
  opens a scope; scopes are never closed, so the latest one is current. Variables declared before
  any program name belong to no scope of their own.
-/

import Pseudocode.Lexicon.Kind

namespace Pseudocode

/-- A program name as the address table lists it. -/
structure AddressEntry where
  kind : Kind := .generalId
  lexeme : String
  line : Nat
  /-- Start value of the instruction counter. -/
  vci : Nat := 0
  deriving DecidableEq, Repr

/-- Program names in the order of their declarations. -/
structure AddressTable where
  entries : List AddressEntry
  deriving DecidableEq, Repr

namespace AddressTable

def empty : AddressTable := ⟨[]⟩

def record (t : AddressTable) (lexeme : String) (line : Nat) : AddressTable :=
  ⟨t.entries ++ [{ lexeme := lexeme, line := line }]⟩

end AddressTable

/-- The open scopes, the latest first. -/
structure ScopeStack where
  names : List String
  deriving DecidableEq, Repr

namespace ScopeStack

def empty : ScopeStack := ⟨[]⟩

def push (s : ScopeStack) (name : String) : ScopeStack := ⟨name :: s.names⟩

/-- The scope that was opened last. -/
def current? (s : ScopeStack) : Option String := s.names.head?

def depth (s : ScopeStack) : Nat := s.names.length

end ScopeStack

end Pseudocode
