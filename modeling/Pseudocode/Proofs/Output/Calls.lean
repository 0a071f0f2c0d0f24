/-
  Pseudocode.Proofs.Output.Calls — calls that write tables into one directory.

  Calls come one after the other, with analyses and formats of their own, and some of them fail. A
  call removes before it writes, and stops if it cannot remove; so it writes only where no table is
  left. The tables that lie in the directory at any time therefore come from one call, or all of
  them were there before the first.

  A time is a tree that the program passes through. `Watched` keeps every one of them, and the
  program that runs on it is the same that runs on a tree (`Follows`).

  Proved:
  (1) A program over a disk does to a watched tree what it does to the tree
      (`follows_writeInTurn`).
  (2) What a step keeps, a call keeps, and so do calls in turn (`Keeps`, `keeps_writeTables`,
      `keeps_writeInTurn`).
  (3) What one call does, what the last of several calls leaves, and that no two of them are ever
      mixed (`tables_replaced`).
-/

import Pseudocode.Proofs.Output.Replacement

namespace Pseudocode

/-- The format that a call writes, and the analysis. -/
structure Call where
  format : Format
  analysis : Analysis

/-- The table files of a call. -/
def Call.files (c : Call) : List (String × String) := c.analysis.files c.format

/-- Calls on one directory, one after the other, whatever becomes of each. -/
def writeInTurn {m : Type → Type} [Monad m] [Disk m] (dir : Path) : List Call → m Unit
  | [] => pure ()
  | c :: rest => do
    let _ ← writeTables c.format dir c.analysis
    writeInTurn dir rest

/-! ## Watched trees -/

/-- A tree, and every tree that there has been. -/
structure Watched where
  tree : Tree
  seen : List Tree

/-- The operation `f` on a watched tree. -/
def watch (f : Tree → Tree × Except DiskFault Unit) : StateM Watched (Except DiskFault Unit) :=
  fun w => ((f w.tree).2, { tree := (f w.tree).1, seen := w.seen ++ [(f w.tree).1] })

instance : Disk (StateM Watched) where
  read path := fun w => (w.tree.read path, w)
  remove dir name := watch (Tree.remove dir name)
  createAll dir := watch (Tree.createAll dir)
  write dir name bytes := watch (Tree.write dir name bytes)

theorem run_watch {f : Tree → Tree × Except DiskFault Unit} {w : Watched} {after : Tree}
    {result : Except DiskFault Unit} (h : f w.tree = (after, result)) :
    (watch f).run w = (result, { tree := after, seen := w.seen ++ [after] }) := by
  show ((f w.tree).2, ({ tree := (f w.tree).1, seen := w.seen ++ [(f w.tree).1] } : Watched)) = _
  rw [h]

/-- A program on a watched tree gives the result, and leaves the tree, of a program on the tree. -/
def Follows {α : Type} (x : StateM Watched α) (y : StateM Tree α) : Prop :=
  ∀ w, (x.run w).1 = (y.run w.tree).1 ∧ (x.run w).2.tree = (y.run w.tree).2

section Follows

variable {α β : Type}

theorem follows_pure (a : α) : Follows (pure a) (pure a) := fun _ => ⟨rfl, rfl⟩

theorem follows_watch (f : Tree → Tree × Except DiskFault Unit) :
    Follows (watch f) (onTree f) := fun _ => ⟨rfl, rfl⟩

theorem Follows.bind {x : StateM Watched α} {y : StateM Tree α} {f : α → StateM Watched β}
    {g : α → StateM Tree β} (first : Follows x y) (next : ∀ a, Follows (f a) (g a)) :
    Follows (x >>= f) (y >>= g) := by
  intro w
  obtain ⟨result, tree⟩ := first w
  have more := next (x.run w).1 (x.run w).2
  rwa [run_bind, run_bind, ← result, ← tree]

variable (dir : Path)

theorem follows_removeFiles (names : List String) :
    Follows (removeFiles dir names) (removeFiles dir names) := by
  induction names with
  | nil => exact follows_pure _
  | cons name rest ih =>
    refine (follows_watch (Tree.remove dir name)).bind ?_
    intro result
    cases result with
    | ok _ => exact ih
    | error fault =>
      cases fault with
      | notFound => exact ih
      | _ => exact follows_pure _

theorem follows_writeFiles (files : List (String × String)) :
    Follows (writeFiles dir files) (writeFiles dir files) := by
  induction files with
  | nil => exact follows_pure _
  | cons file rest ih =>
    refine (follows_watch (Tree.write dir file.1 file.2.toUTF8)).bind ?_
    intro result
    cases result with
    | error fault => exact follows_pure _
    | ok _ => exact ih.bind fun paths => follows_pure _

theorem follows_writeTables (format : Format) (a : Analysis) :
    Follows (writeTables format dir a) (writeTables format dir a) := by
  refine (follows_removeFiles dir tableFiles).bind ?_
  intro result
  cases result with
  | error fault => exact follows_pure _
  | ok _ =>
    refine (follows_watch (Tree.createAll dir)).bind ?_
    intro result
    cases result with
    | error fault => exact follows_pure _
    | ok _ => exact follows_writeFiles dir _

/-- Calls do to a watched tree what they do to the tree. -/
theorem follows_writeInTurn (calls : List Call) :
    Follows (writeInTurn dir calls) (writeInTurn dir calls) := by
  induction calls with
  | nil => exact follows_pure _
  | cons c rest ih => exact (follows_writeTables dir c.format c.analysis).bind fun _ => ih

end Follows

/-! ## What is kept -/

/-- A program keeps `now` of the tree, as long as all trees have `ever`; and then all of its trees
have `ever`. -/
def Keeps {α : Type} (ever now : Tree → Prop) (x : StateM Watched α) : Prop :=
  ∀ w, (∀ u ∈ w.seen, ever u) → now w.tree →
    (∀ u ∈ (x.run w).2.seen, ever u) ∧ now (x.run w).2.tree

section Keeps

variable {α β : Type} {ever now : Tree → Prop}

theorem keeps_pure (a : α) : Keeps ever now (pure a) := fun _ seen here => ⟨seen, here⟩

theorem keeps_watch {f : Tree → Tree × Except DiskFault Unit} (le : ∀ t, now t → ever t)
    (step : ∀ t, now t → now (f t).1) : Keeps ever now (watch f) := by
  intro w seen here
  have next : now (f w.tree).1 := step w.tree here
  refine ⟨?_, next⟩
  intro u mem
  rcases List.mem_append.1 mem with old | new
  · exact seen u old
  · rw [List.mem_singleton.1 new]
    exact le _ next

theorem Keeps.bind {x : StateM Watched α} {f : α → StateM Watched β} (first : Keeps ever now x)
    (next : ∀ a, Keeps ever now (f a)) : Keeps ever now (x >>= f) := by
  intro w seen here
  obtain ⟨seen', here'⟩ := first w seen here
  rw [run_bind]
  exact next _ _ seen' here'

end Keeps

/-! ## Tables of one origin -/

/-- Each table that is there is the one that is held under its name. -/
def Tree.Holds (t : Tree) (place : List String) (held : String → Option ByteArray) : Prop :=
  ∀ name ∈ tableFiles, ∀ bytes, t.view? (place ++ [name]) = some (.file bytes) →
    held name = some bytes

/-- The tables that a call writes. -/
def Call.held (c : Call) (name : String) : Option ByteArray :=
  (c.files.lookup name).map String.toUTF8

/-- The tables that are there. -/
def Tree.held (t : Tree) (place : List String) (name : String) : Option ByteArray :=
  match t.view? (place ++ [name]) with
  | some (.file bytes) => some bytes
  | _ => none

theorem Tree.holds_held (t : Tree) (place : List String) : t.Holds place (t.held place) := by
  intro name _ bytes here
  simp [held, here]

/-- The working directory is there, and each table is the one that is held under its name. -/
structure Tree.Settled (home place : List String) (held : String → Option ByteArray) (t : Tree) :
    Prop where
  working : t.working = home
  home : t.view? home = some .directory
  tables : t.Holds place held

/-- Besides, the directory is there, and nothing is in the way of a table. -/
structure Tree.Ready (home place : List String) (held : String → Option ByteArray) (t : Tree) :
    Prop extends t.Settled home place held where
  parent : t.view? place = some .directory
  free : ∀ name ∈ tableFiles, t.view? (place ++ [name]) ≠ some .directory

section Steps

variable {home directories : List String} {held : String → Option ByteArray} {dir : Path}
  (leads : dir.LeadsToTables directories) {t : Tree} {name : String} (table : name ∈ tableFiles)

include leads table

theorem settled_remove (settled : t.Settled home (home ++ directories) held) :
    (t.remove dir name).1.Settled home (home ++ directories) held := by
  obtain ⟨rfl, here, tables⟩ := settled
  have room := leads.hasRoomFor table
  by_cases stopped : ¬ t.root.Open (t.working ++ directories) ∨
      t.view? (t.working ++ directories ++ [name]) = some .directory
  · obtain ⟨fault, failed, -⟩ := Tree.remove_of_blocked here leads.toDescends room stopped
    rw [failed]
    exact ⟨rfl, here, tables⟩
  · rw [not_or, Classical.not_not] at stopped
    obtain ⟨after, result, removed, -, working, view⟩ :=
      Tree.remove_of_open leads.toDescends room stopped.1 stopped.2
    rw [removed]
    refine ⟨working, ?_, ?_⟩
    · rw [view, if_neg (ne_append_of_isPrefix (List.prefix_append _ _) name)]
      exact here
    · intro n mem bytes file
      rw [view] at file
      split at file
      · cases file
      · exact tables n mem bytes file

theorem ready_write {bytes : ByteArray} (ready : t.Ready home (home ++ directories) held)
    (holds : held name = some bytes) :
    (t.write dir name bytes).1.Ready home (home ++ directories) held := by
  obtain ⟨⟨rfl, here, tables⟩, parent, free⟩ := ready
  obtain ⟨after, wrote, working, view⟩ := Tree.write_of_directory leads.toDescends
    (leads.hasRoomFor table) bytes parent (free name table)
  rw [wrote]
  refine ⟨⟨working, ?_, ?_⟩, ?_, ?_⟩
  · rw [view, if_neg (ne_append_of_isPrefix (List.prefix_append _ _) name)]
    exact here
  · intro n mem other file
    rw [view] at file
    split at file
    · rename_i same
      rw [List.append_cancel_left_eq, List.singleton_inj] at same
      cases file
      rw [same, holds]
    · exact tables n mem other file
  · rw [view, if_neg (ne_append_of_isPrefix (List.prefix_refl _) name)]
    exact parent
  · intro n mem
    rw [view]
    split
    · simp
    · exact free n mem

end Steps

section Loops

variable {home directories : List String} {held : String → Option ByteArray} {dir : Path}
  (leads : dir.LeadsToTables directories) {ever : Tree → Prop}

include leads

theorem keeps_removeFiles {names : List String} (tables : ∀ name ∈ names, name ∈ tableFiles)
    (le : ∀ t, t.Settled home (home ++ directories) held → ever t) :
    Keeps ever (Tree.Settled home (home ++ directories) held) (removeFiles dir names) := by
  induction names with
  | nil => exact keeps_pure _
  | cons name rest ih =>
    have table := tables name List.mem_cons_self
    have rest := ih fun n mem => tables n (List.mem_cons_of_mem name mem)
    have step : Keeps ever (Tree.Settled home (home ++ directories) held)
        (watch (Tree.remove dir name)) := keeps_watch le fun t => settled_remove leads table
    refine step.bind ?_
    intro result
    cases result with
    | ok _ => exact rest
    | error fault =>
      cases fault with
      | notFound => exact rest
      | _ => exact keeps_pure _

theorem keeps_writeFiles {files : List (String × String)}
    (holds : ∀ file ∈ files, file.1 ∈ tableFiles ∧ held file.1 = some file.2.toUTF8)
    (le : ∀ t, t.Ready home (home ++ directories) held → ever t) :
    Keeps ever (Tree.Ready home (home ++ directories) held) (writeFiles dir files) := by
  induction files with
  | nil => exact keeps_pure _
  | cons file rest ih =>
    obtain ⟨table, here⟩ := holds file List.mem_cons_self
    have rest := ih fun f mem => holds f (List.mem_cons_of_mem file mem)
    have step : Keeps ever (Tree.Ready home (home ++ directories) held)
        (watch (Tree.write dir file.1 file.2.toUTF8)) :=
      keeps_watch le fun t ready => ready_write leads table ready here
    refine step.bind ?_
    intro result
    cases result with
    | error fault => exact keeps_pure _
    | ok _ => exact rest.bind fun paths => keeps_pure _

end Loops

/-- The files that a call writes are the ones that it holds. -/
theorem Call.held_of_mem (c : Call) {file : String × String} (mem : file ∈ c.files) :
    c.held file.1 = some file.2.toUTF8 := by
  obtain ⟨before, after, split⟩ := List.append_of_mem mem
  have distinct : (c.files.map Prod.fst).Nodup := nodup_files c.analysis c.format
  have found : c.files.lookup file.1 = some file.2 := by
    refine List.lookup_eq_some_iff.2 ⟨before, after, split, ?_⟩
    intro other earlier
    rw [split, List.map_append, List.map_cons, List.nodup_append] at distinct
    have ne := distinct.2.2 other.1 (List.mem_map_of_mem earlier) file.1 List.mem_cons_self
    exact bne_iff_ne.2 ne.symm
  rw [Call.held, found]
  rfl

/-- The tables that are there are all of one origin. -/
def Tree.OfOneOrigin (home place : List String) (origins : List (String → Option ByteArray))
    (t : Tree) : Prop :=
  ∃ held ∈ origins, t.Settled home place held

section Calls

variable {home directories : List String} {dir : Path} (leads : dir.LeadsToTables directories)
  {origins : List (String → Option ByteArray)}

include leads

omit leads in
theorem ofOneOrigin_of_settled {held : String → Option ByteArray} (known : held ∈ origins)
    (t : Tree) (settled : t.Settled home (home ++ directories) held) :
    t.OfOneOrigin home (home ++ directories) origins := ⟨held, known, settled⟩

/-- Where the tables are removed, the directory is made and ready for the tables of any call. -/
theorem ready_of_cleared {t clear : Tree} (there : t.view? t.working = some .directory)
    (free : t.root.Open (t.working ++ directories))
    (cleared : t.Cleared clear (t.working ++ directories) tableFiles)
    (held : String → Option ByteArray) :
    ∃ made : Tree, clear.createAll dir = (made, .ok ()) ∧
      made.Ready t.working (t.working ++ directories) held := by
  obtain ⟨made, making, working, above, missing, -⟩ :=
    createAll_of_cleared there leads free cleared
  refine ⟨made, making, ⟨working, above _ (List.prefix_append _ _), ?_⟩,
    above _ (List.prefix_refl _), ?_⟩
  · intro name table bytes file
    rw [missing name table] at file
    cases file
  · intro name table
    rw [missing name table]
    simp

/-- The tables on the way of a call are of one origin at any time, if those before were: it writes
its own ones only when it has removed all others. -/
theorem keeps_writeTables (c : Call) (mem : c.held ∈ origins) :
    Keeps (Tree.OfOneOrigin home (home ++ directories) origins)
      (Tree.OfOneOrigin home (home ++ directories) origins)
      (writeTables c.format dir c.analysis) := by
  intro w seen here
  obtain ⟨held, known, settled⟩ := here
  have removed : Keeps (Tree.OfOneOrigin home (home ++ directories) origins)
      (Tree.Settled home (home ++ directories) held) (removeFiles dir tableFiles) :=
    keeps_removeFiles leads (fun name table => table) (ofOneOrigin_of_settled known)
  obtain ⟨seen', settled'⟩ := removed w seen settled
  obtain ⟨result, tree⟩ := follows_removeFiles dir tableFiles w
  obtain ⟨rfl, there, -⟩ := settled
  unfold writeTables removeTables
  rw [run_bind]
  generalize (removeFiles dir tableFiles : StateM Watched (Except DiskFault Unit)).run w = r at *
  obtain ⟨verdict, w'⟩ := r
  by_cases can : w.tree.CanReplace (w.tree.working ++ directories)
  · obtain ⟨clear, removal, cleared⟩ := removeTables_of_canReplace there leads can
    obtain ⟨made, making, ready⟩ := ready_of_cleared leads there can.free cleared c.held
    obtain rfl : verdict = .ok () := result.trans (congrArg Prod.fst removal)
    obtain rfl : w'.tree = clear := tree.trans (congrArg Prod.snd removal)
    have own (t : Tree) (ready : t.Ready w.tree.working (w.tree.working ++ directories) c.held) :=
      ofOneOrigin_of_settled mem t ready.toSettled
    have creation : (Disk.createAll dir : StateM Watched (Except DiskFault Unit)).run w' =
        (.ok (), { tree := made, seen := w'.seen ++ [made] }) := run_watch making
    have written : Keeps _ _ (writeFiles dir c.files) := keeps_writeFiles leads
      (fun file hf => ⟨mem_tableFiles_of_mem_files hf, c.held_of_mem hf⟩) own
    have seenMade : ∀ u ∈ w'.seen ++ [made],
        u.OfOneOrigin w.tree.working (w.tree.working ++ directories) origins := by
      intro u hu
      rcases List.mem_append.1 hu with old | new
      · exact seen' u old
      · rw [List.mem_singleton.1 new]
        exact own made ready
    obtain ⟨seenAll, ready'⟩ := written { tree := made, seen := w'.seen ++ [made] } seenMade ready
    simp only [writeInto]
    rw [run_bind, creation]
    exact ⟨seenAll, own _ ready'⟩
  · obtain ⟨fault, after, removal, -⟩ := removeTables_of_not_canReplace there leads can
    obtain rfl : verdict = .error fault := result.trans (congrArg Prod.fst removal)
    exact ⟨seen', ofOneOrigin_of_settled known _ settled'⟩

/-- So are the tables on the way of calls in turn. -/
theorem keeps_writeInTurn (calls : List Call) (mem : ∀ c ∈ calls, c.held ∈ origins) :
    Keeps (Tree.OfOneOrigin home (home ++ directories) origins)
      (Tree.OfOneOrigin home (home ++ directories) origins) (writeInTurn dir calls) := by
  induction calls with
  | nil => exact keeps_pure _
  | cons c rest ih =>
    refine (keeps_writeTables leads c (mem c List.mem_cons_self)).bind ?_
    intro result
    exact ih fun other later => mem other (List.mem_cons_of_mem c later)

end Calls

/-! ## Laws -/

/-- The tree that calls in turn leave. -/
def Tree.afterCalls (t : Tree) (dir : Path) (calls : List Call) : Tree :=
  ((writeInTurn dir calls : StateM Tree Unit).run t).2

/-- What a call does on a tree: it succeeds exactly when nothing stops it, and then leaves its own
tables and gives their paths; a call that fails has removed the tables in front of the first one
that is a directory, and no more. -/
structure CallLaw (t : Tree) (dir : Path) (place : List String) (c : Call) : Prop where
  succeeds : (∃ paths after, t.replaceTables c.format dir c.analysis = (.ok paths, after)) ↔
    t.CanReplace place
  success : ∀ paths after, t.replaceTables c.format dir c.analysis = (.ok paths, after) →
    paths = c.files.map (fun file => dir.child file.1) ∧ t.Replaced after place c.files
  failure : ∀ fault after, t.replaceTables c.format dir c.analysis = (.error fault, after) →
    t.Cleared after place (t.removable place tableFiles)

/-- What calls in turn do: a call that succeeds after them leaves the tables that it would leave
anywhere, and the tables on the way are at any time those of one call or those from before. -/
structure SequenceLaw (t : Tree) (dir : Path) (place : List String) (calls : List Call) : Prop where
  last : ∀ (c : Call) paths after,
    (t.afterCalls dir calls).replaceTables c.format dir c.analysis = (.ok paths, after) →
    ∀ name ∈ tableFiles, after.view? (place ++ [name]) = (c.held name).map .file
  watched : ((writeInTurn dir calls : StateM Watched Unit).run ⟨t, [t]⟩).2.tree =
    t.afterCalls dir calls
  unmixed : ∀ u ∈ ((writeInTurn dir calls : StateM Watched Unit).run ⟨t, [t]⟩).2.seen,
    u.Holds place (t.held place) ∨ ∃ c ∈ calls, u.Holds place c.held

section Laws

variable {t : Tree} {dir : Path} {directories : List String}
  (home : t.view? t.working = some .directory) (leads : dir.LeadsToTables directories)

include home leads

theorem callLaw (c : Call) : CallLaw t dir (t.working ++ directories) c := by
  by_cases can : t.CanReplace (t.working ++ directories)
  · obtain ⟨after, run, replaced⟩ := replaceTables_of_canReplace home leads c.format c.analysis can
    refine ⟨⟨fun _ => can, fun _ => ⟨_, after, run⟩⟩, ?_, ?_⟩
    · intro paths after' run'
      cases run.symm.trans run'
      exact ⟨rfl, replaced⟩
    · intro fault after' run'
      cases run.symm.trans run'
  · obtain ⟨fault, after, run, cleared⟩ :=
      replaceTables_of_not_canReplace home leads c.format c.analysis can
    refine ⟨⟨?_, fun h => absurd h can⟩, ?_, ?_⟩
    · rintro ⟨paths, after', run'⟩
      cases run.symm.trans run'
    · intro paths after' run'
      cases run.symm.trans run'
    · intro fault' after' run'
      cases run.symm.trans run'
      exact cleared

/-- The working directory is still there after calls. -/
theorem home_of_afterCalls (calls : List Call) :
    (t.afterCalls dir calls).working = t.working ∧
      (t.afterCalls dir calls).view? t.working = some .directory := by
  induction calls generalizing t with
  | nil => exact ⟨rfl, home⟩
  | cons c rest ih =>
    obtain ⟨working, view⟩ := home_of_replaceTables home leads c.format c.analysis
    have more := ih (t := (t.replaceTables c.format dir c.analysis).2) (by rw [working, view])
    rwa [working] at more

theorem sequenceLaw (calls : List Call) :
    SequenceLaw t dir (t.working ++ directories) calls := by
  obtain ⟨working, home'⟩ := home_of_afterCalls home leads calls
  constructor
  case last =>
    intro c paths after run name mem
    have law := callLaw (by rw [working, home']) leads c
    rw [working] at law
    rw [(law.success paths after run).2.tables name mem, Call.held, Option.map_map]
    rfl
  case watched => exact (follows_writeInTurn dir calls ⟨t, [t]⟩).2
  case unmixed =>
    have start : t.OfOneOrigin t.working (t.working ++ directories)
        (t.held (t.working ++ directories) :: calls.map Call.held) :=
      ⟨_, List.mem_cons_self, rfl, home, t.holds_held _⟩
    have kept := keeps_writeInTurn leads calls
      (fun c mem => List.mem_cons_of_mem _ (List.mem_map_of_mem mem)) ⟨t, [t]⟩
      (fun u mem => List.mem_singleton.1 mem ▸ start) start
    intro u mem
    obtain ⟨held, known, settled⟩ := kept.1 u mem
    rcases List.mem_cons.1 known with rfl | known
    · exact .inl settled.tables
    · obtain ⟨c, hc, rfl⟩ := List.mem_map.1 known
      exact .inr ⟨c, hc, settled.tables⟩

end Laws

/-- Writes the tables of a body without anything in it. -/
def bodyAlone (format : Format) : Call :=
  ⟨format, { tokens := [.plain .beginKw "begin" 1], symbols := .empty, programs := .empty,
             tally := { tokens := 1 } }⟩

/-- A directory with tables of both formats and another file. -/
def mixedTree : Tree :=
  { root := .directory [("out", .directory
      [("tokensTable.txt", .file "-2, begin, -1, 9\n".toUTF8), ("tables.json", .file "[]".toUTF8),
        ("notes", .file "".toUTF8)])]
    working := [] }

end Pseudocode
