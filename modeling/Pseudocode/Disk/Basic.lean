/-
  Pseudocode.Disk.Basic — what a program asks of a file system.

  Four operations are enough: read a file, remove an entry of a directory, make a directory with
  everything above it, write an entry of a directory. Each one succeeds or says why not. `Disk`
  is the interface; programs over it run on the real file system and on a tree in memory alike.
-/

import Pseudocode.Disk.Path

namespace Pseudocode

/-- Why an operation on files failed. -/
inductive DiskFault where
  | notFound
  | notADirectory
  | isADirectory
  | alreadyExists
  | nameTooLong
  | nullInName
  | notText
  | other (message : String)
  deriving DecidableEq, Repr

def DiskFault.message : DiskFault → String
  | .notFound => "No such file or directory (os error 2)"
  | .notADirectory => "Not a directory (os error 20)"
  | .isADirectory => "Is a directory (os error 21)"
  | .alreadyExists => "File exists (os error 17)"
  | .nameTooLong => "File name too long (os error 36)"
  | .nullInName => "file name contained an unexpected NUL byte"
  | .notText => "stream did not contain valid UTF-8"
  | .other message => message

/-- Why a path is refused before anything is looked up. -/
def Path.refusal? (p : Path) : Option DiskFault :=
  if p.hasNull then some .nullInName
  else if p.isTooLong then some .nameTooLong
  else none

/-- A file system, as far as a program needs one. -/
class Disk (m : Type → Type) where
  /-- The bytes of a file. -/
  read : Path → m (Except DiskFault ByteArray)
  /-- Removes the file `name` of a directory. -/
  remove : (dir : Path) → (name : String) → m (Except DiskFault Unit)
  /-- Makes a directory, and those above it, where they are missing. -/
  createAll : (dir : Path) → m (Except DiskFault Unit)
  /-- Makes or replaces the file `name` of a directory. -/
  write : (dir : Path) → (name : String) → ByteArray → m (Except DiskFault Unit)

end Pseudocode
