/-
  Pseudocode.Output.Writer — tables on a disk.

  Before tables are written, every table file of an earlier run is removed, whatever its format,
  so that a directory never holds tables of two runs. A file that is not there needs no removal;
  any other obstacle ends the run before anything is made or written.
-/

import Pseudocode.Disk.Basic
import Pseudocode.Output.Tables

namespace Pseudocode

variable {m : Type → Type} [Monad m] [Disk m]

/-- Removes the named files of a directory, in order; files that are missing do not matter. -/
def removeFiles (dir : Path) : List String → m (Except DiskFault Unit)
  | [] => pure (.ok ())
  | name :: rest => do
    match ← Disk.remove dir name with
    | .ok () => removeFiles dir rest
    | .error .notFound => removeFiles dir rest
    | .error fault => pure (.error fault)

/-- Writes named texts into a directory, in order, and gives their paths. -/
def writeFiles (dir : Path) : List (String × String) → m (Except DiskFault (List Path))
  | [] => pure (.ok [])
  | (name, text) :: rest => do
    match ← Disk.write dir name text.toUTF8 with
    | .error fault => pure (.error fault)
    | .ok () => do
      let paths ← writeFiles dir rest
      pure (paths.map (dir.child name :: ·))

/-- Removes the table files that an earlier run left in a directory. -/
def removeTables (dir : Path) : m (Except DiskFault Unit) := removeFiles dir tableFiles

/-- Makes a directory and writes named texts into it. -/
def writeInto (dir : Path) (files : List (String × String)) :
    m (Except DiskFault (List Path)) := do
  match ← Disk.createAll dir with
  | .error fault => pure (.error fault)
  | .ok () => writeFiles dir files

/-- Replaces the tables in a directory by those of an analysis. -/
def writeTables (format : Format) (dir : Path) (analysis : Analysis) :
    m (Except DiskFault (List Path)) := do
  match ← removeTables dir with
  | .error fault => pure (.error fault)
  | .ok () => writeInto dir (analysis.files format)

end Pseudocode
