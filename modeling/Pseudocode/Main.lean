/-
  Pseudocode.Main — the command line.

  The real file system as a `Disk`, and a run on it. What a run does is decided in
  `CommandLine.Run`; here its output is printed and its exit code returned.
-/

import Pseudocode.CommandLine.Run

namespace Pseudocode

/-- What an error of the system means for a run. -/
def DiskFault.ofIOError : IO.Error → DiskFault
  | .noFileOrDirectory .. => .notFound
  | .inappropriateType _ 21 _ => .isADirectory
  | .inappropriateType .. => .notADirectory
  | .alreadyExists .. => .alreadyExists
  | .invalidArgument _ 36 _ => .nameTooLong
  | error => .other (toString error)

/-- The result of an action, its error turned into a fault. -/
def attempt {α : Type} (action : IO α) : IO (Except DiskFault α) := do
  match ← action.toBaseIO with
  | .ok a => pure (.ok a)
  | .error error => pure (.error (.ofIOError error))

instance : Disk IO where
  read path := attempt (IO.FS.readBinFile path.text)
  remove dir name := attempt (IO.FS.removeFile (dir.child name).text)
  createAll dir := attempt (if dir.text.isEmpty then pure () else IO.FS.createDirAll dir.text)
  write dir name bytes := attempt (IO.FS.writeBinFile (dir.child name).text bytes)

end Pseudocode

def main (args : List String) : IO UInt32 := do
  let outcome ← (Pseudocode.run args : IO Pseudocode.Outcome)
  IO.print outcome.stdout
  IO.eprint outcome.stderr
  pure outcome.exit.toUInt32
