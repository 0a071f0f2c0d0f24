/-
  Pseudocode.Disk.Path — paths as a user writes them.

  A path is kept as it was written, and shown so. Its steps lead from the working directory, or
  from the root if it begins with a slash: into a named entry, up to the directory above, or
  nowhere. Empty parts, as two slashes in a row make
  them, are no steps. File systems bound the bytes of a name and of a whole path, and take no path
  with a null character.
-/

namespace Pseudocode

/-- One part of a path. -/
inductive Step where
  | here
  | up
  | into (name : String)
  deriving DecidableEq, Repr

/-- The most bytes that the name of an entry may take. -/
def maxNameBytes : Nat := 255

/-- The most bytes that a path may take. -/
def maxPathBytes : Nat := 4095

/-- Whether a step goes by a name that no entry can have. -/
def Step.isTooLong : Step → Bool
  | .into name => maxNameBytes < name.utf8ByteSize
  | _ => false

/-- A path in its written form. -/
structure Path where
  text : String
  deriving DecidableEq, Repr

namespace Path

/-- The step that a part of a path makes. -/
def step? (part : List Char) : Option Step :=
  if part = [] then none
  else if part = ['.'] then some .here
  else if part = ['.', '.'] then some .up
  else some (.into (String.ofList part))

def steps (p : Path) : List Step := (p.text.toList.splitOn '/').filterMap step?

def isAbsolute (p : Path) : Bool := p.text.toList.head? = some '/'

def endsInSlash (p : Path) : Bool := p.text.toList.getLast? = some '/'

def isTooLong (p : Path) : Bool := maxPathBytes < p.text.utf8ByteSize

def hasNull (p : Path) : Bool := p.text.toList.contains '\x00'

/-- The path of an entry of the directory `p`. -/
def child (p : Path) (name : String) : Path :=
  if p.text.isEmpty || p.endsInSlash then ⟨p.text ++ name⟩ else ⟨p.text ++ "/" ++ name⟩

end Path

end Pseudocode
