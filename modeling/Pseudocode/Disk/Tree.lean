/-
  Pseudocode.Disk.Tree — a file system in memory.

  A tree is a directory of files and directories. `locate` follows the steps of a path and finds
  the place they lead to, whether or not something is there; every place on the way must be a
  directory. The operations of a `Disk` are then look-ups and updates at that place.

  - `find?_erase_self`: what is erased is gone.
-/

import Pseudocode.Disk.Basic

namespace Pseudocode

/-- What stands at a place of a tree. -/
inductive Node where
  | file (bytes : ByteArray)
  | directory (entries : List (String × Node))

namespace Node

def emptyDirectory : Node := .directory []

/-- Puts a node under a name, in place of what has that name. -/
def setEntry (name : String) (node : Node) : List (String × Node) → List (String × Node)
  | [] => [(name, node)]
  | (n, old) :: rest => if n = name then (n, node) :: rest else (n, old) :: setEntry name node rest

/-- What stands at a place. -/
def find? : Node → List String → Option Node
  | node, [] => some node
  | .file _, _ :: _ => none
  | .directory entries, name :: rest => (entries.lookup name).bind (find? · rest)

/-- The tree with a node at a place; missing directories on the way are made. -/
def put : Node → Node → List String → Node
  | _, node, [] => node
  | .file bytes, _, _ :: _ => .file bytes
  | .directory entries, node, name :: rest =>
    .directory
      (setEntry name (put ((entries.lookup name).getD emptyDirectory) node rest) entries)

/-- The tree without what stands at a place. -/
def erase : Node → List String → Node
  | .file bytes, _ => .file bytes
  | .directory entries, [] => .directory entries
  | .directory entries, [name] => .directory (entries.filter (·.1 ≠ name))
  | .directory entries, name :: rest =>
    match entries.lookup name with
    | none => .directory entries
    | some child => .directory (setEntry name (erase child rest) entries)

theorem lookup_setEntry (name other : String) (node : Node) (entries : List (String × Node)) :
    (setEntry name node entries).lookup other =
      if other = name then some node else entries.lookup other := by
  induction entries with
  | nil =>
    by_cases h : other = name
    · simp [setEntry, h]
    · simp [setEntry, List.lookup_cons, beq_false_of_ne h, h]
  | cons entry rest ih =>
    obtain ⟨n, old⟩ := entry
    by_cases hn : n = name
    · subst hn
      by_cases h : other = n
      · simp [setEntry, h]
      · simp [setEntry, List.lookup_cons, beq_false_of_ne h, h]
    · by_cases h : other = n
      · subst h
        simp [setEntry, hn]
      · simp [setEntry, hn, List.lookup_cons, beq_false_of_ne h, ih]

@[simp] theorem find?_nil (node : Node) : node.find? [] = some node := by
  cases node <;> rfl

theorem lookup_filter_ne (name : String) (entries : List (String × Node)) :
    (entries.filter (·.1 ≠ name)).lookup name = none := by
  induction entries with
  | nil => rfl
  | cons entry rest ih =>
    obtain ⟨n, old⟩ := entry
    by_cases h : n = name
    · simpa [h] using ih
    · have other : (name == n) = false := beq_false_of_ne (Ne.symm h)
      simpa [h, List.lookup_cons, other] using ih

theorem find?_erase_self {root : Node} {path : List String} (h : path ≠ []) :
    (root.erase path).find? path = none := by
  induction path generalizing root with
  | nil => exact absurd rfl h
  | cons name rest ih =>
    cases root with
    | file bytes => cases rest <;> rfl
    | directory entries =>
      cases rest with
      | nil =>
        have gone := lookup_filter_ne name entries
        simp only [erase, find?, gone, Option.bind_none]
      | cons next last =>
        cases found : entries.lookup name with
        | none => simp [erase, find?, found]
        | some child =>
          have gone : (child.erase (next :: last)).find? (next :: last) = none := ih (by simp)
          simp [erase, found, find?, lookup_setEntry, gone]

end Node

/-! ## Places -/

/-- A file system in memory: what lies under its root, and the place of the working directory. -/
structure Tree where
  root : Node
  working : List String

/-- The place that a step leads to; above the root is the root. -/
def Step.fromPlace : Step → List String → List String
  | .here, place => place
  | .up, place => place.dropLast
  | .into name, place => place ++ [name]

/-- The place that steps lead to from a place; every place that is left must be a directory, and
every name on the way one that an entry can have. -/
def Node.locate (root : Node) : List String → List Step → Except DiskFault (List String)
  | place, [] => .ok place
  | place, step :: rest =>
    match root.find? place with
    | none => .error .notFound
    | some (.file _) => .error .notADirectory
    | some (.directory _) =>
      if step.isTooLong then .error .nameTooLong
      else locate root (step.fromPlace place) rest

namespace Tree

/-- The place where the steps of a path start. -/
def start (t : Tree) (path : Path) : List String := if path.isAbsolute then [] else t.working

/-- What stands at a place. -/
def find? (t : Tree) (place : List String) : Option Node := t.root.find? place

/-- The place that the steps of a path lead to. -/
def locate (t : Tree) (path : Path) (steps : List Step) : Except DiskFault (List String) :=
  match path.refusal? with
  | some fault => .error fault
  | none => t.root.locate (t.start path) steps

/-! ## Operations -/

/-- The file at a path; a path that ends in a slash must lead to a directory. -/
def read (path : Path) (t : Tree) : Except DiskFault ByteArray := do
  if path.text.isEmpty then
    throw .notFound
  let place ← t.locate path (path.steps ++ if path.endsInSlash then [.here] else [])
  match t.find? place with
  | none => .error .notFound
  | some (.directory _) => .error .isADirectory
  | some (.file bytes) => .ok bytes

/-- The tree without the file `name` of a directory. -/
def remove (dir : Path) (name : String) (t : Tree) : Tree × Except DiskFault Unit :=
  match t.locate (dir.child name) (dir.steps ++ [.into name]) with
  | .error fault => (t, .error fault)
  | .ok place =>
    match t.find? place with
    | none => (t, .error .notFound)
    | some (.directory _) => (t, .error .isADirectory)
    | some (.file _) => ({ t with root := t.root.erase place }, .ok ())

/-- What a file in the way is reported as, when the steps `rest` lead on from it. As long as
nothing was missing, all steps are taken at once and the file fails as a directory to go through.
Once a directory has been made, the others are asked for one by one and the file fails as one that
is there already, unless only dots lead on from it. -/
def blockedBy (made : Bool) (rest : List Step) : DiskFault :=
  if rest = [] then .alreadyExists
  else if made && rest.any (· ≠ .here) then .alreadyExists
  else .notADirectory

/-- The tree under a root with directories where steps from a place lead through; `made` tells
whether one was made on the way to that place. A name with nothing but dots behind it is not made:
there the path asks for what is in a directory, not for the directory. -/
def createSteps (made : Bool) : List String → List Step → Node → Node × Except DiskFault Unit
  | _, [], root => (root, .ok ())
  | place, step :: rest, root =>
    let next := step.fromPlace place
    if step.isTooLong then (root, .error .nameTooLong)
    else
      match root.find? next with
      | some (.directory _) => createSteps made next rest root
      | some (.file _) => (root, .error (blockedBy made rest))
      | none =>
        if rest ≠ [] ∧ rest.all (· = .here) then (root, .error .notFound)
        else createSteps true next rest (root.put Node.emptyDirectory next)

/-- The tree with a directory at a path, and with those above it. -/
def createAll (dir : Path) (t : Tree) : Tree × Except DiskFault Unit :=
  match dir.refusal? with
  | some fault => (t, .error fault)
  | none =>
    let (root, result) := createSteps false (t.start dir) dir.steps t.root
    ({ t with root }, result)

/-- The tree with a file `name` in a directory. -/
def write (dir : Path) (name : String) (bytes : ByteArray) (t : Tree) :
    Tree × Except DiskFault Unit :=
  match t.locate (dir.child name) (dir.steps ++ [.into name]) with
  | .error fault => (t, .error fault)
  | .ok place =>
    match t.find? place with
    | some (.directory _) => (t, .error .isADirectory)
    | _ => ({ t with root := t.root.put (.file bytes) place }, .ok ())

end Tree

/-- The operation `f` on the tree that is the state. -/
def onTree (f : Tree → Tree × Except DiskFault Unit) : StateM Tree (Except DiskFault Unit) :=
  fun t => ((f t).2, (f t).1)

instance : Disk (StateM Tree) where
  read path := fun t => (t.read path, t)
  remove dir name := onTree (Tree.remove dir name)
  createAll dir := onTree (Tree.createAll dir)
  write dir name bytes := onTree (Tree.write dir name bytes)

/-! ## Programs on a tree -/

theorem run_bind {σ α β : Type} (s : σ) (x : StateM σ α) (f : α → StateM σ β) :
    (x >>= f).run s = (f (x.run s).1).run (x.run s).2 := rfl

section Run

variable (t : Tree)

@[simp] theorem run_read (path : Path) :
    (Disk.read path : StateM Tree (Except DiskFault ByteArray)).run t = (t.read path, t) := rfl

@[simp] theorem run_remove (dir : Path) (name : String) :
    (Disk.remove dir name : StateM Tree (Except DiskFault Unit)).run t =
      (t.remove dir name).swap := rfl

@[simp] theorem run_createAll (dir : Path) :
    (Disk.createAll dir : StateM Tree (Except DiskFault Unit)).run t = (t.createAll dir).swap := rfl

@[simp] theorem run_write (dir : Path) (name : String) (bytes : ByteArray) :
    (Disk.write dir name bytes : StateM Tree (Except DiskFault Unit)).run t =
      (t.write dir name bytes).swap := rfl

end Run

end Pseudocode
