/-
  Pseudocode.Proofs.Output.Replacement — what a call that writes tables does to a tree.

  The call first removes every table file, of either format, and then makes the directory and
  writes. What can stop it, a file in the way or a directory at the place of a table, stops the
  removal. Where the removal goes through, nothing is left that could stop the rest: no file is in
  the way, so the directory can be made, and no table place has a directory, so every file can be
  written. So a call that fails has written and made nothing.

  Proved:
  (1) Removing files goes on to the first that is a directory (`removeFiles_of_open`), and not at
      all if a file is in the way (`removeFiles_of_blocked`).
  (2) Files are written into a directory that is there (`writeFiles_of_directory`).
  (3) A call does all of its work (`replaceTables_of_canReplace`) or fails after a part of the
      removal (`replaceTables_of_not_canReplace`).
-/

import Pseudocode.Output.Writer
import Pseudocode.Proofs.Disk.Operations

namespace Pseudocode

/-- A path that goes down from the working directory by names, to a place for tables. -/
structure Path.LeadsToTables (dir : Path) (names : List String) : Prop
    extends dir.Descends names where
  accepted : ∀ name ∈ tableFiles, (dir.child name).refusal? = none

theorem Path.LeadsToTables.hasRoomFor {dir : Path} {names : List String}
    (leads : dir.LeadsToTables names) {name : String} (table : name ∈ tableFiles) :
    dir.HasRoomFor name := by
  have fits : ∀ name ∈ tableFiles, IsShort name ∧ name.toList.head? ≠ some '/' := by decide
  exact ⟨(fits name table).1, (fits name table).2, leads.accepted name table⟩

namespace Tree

/-- A call that writes the tables of an analysis: its result, and the tree that it leaves. -/
def replaceTables (t : Tree) (format : Format) (dir : Path) (a : Analysis) :
    Except DiskFault (List Path) × Tree :=
  (writeTables format dir a : StateM Tree (Except DiskFault (List Path))).run t

/-- The names in front of the first that a directory has, in a directory. -/
def removable (t : Tree) (place : List String) (names : List String) : List String :=
  names.takeWhile fun name => t.view? (place ++ [name]) ≠ some .directory

/-- Nothing stops a call: no file is at the place of the directory or above it, and no directory at
the place of a table. -/
structure CanReplace (t : Tree) (place : List String) : Prop where
  free : t.root.Open place
  tables : ∀ name ∈ tableFiles, t.view? (place ++ [name]) ≠ some .directory

/-- `after` is `t` without some files of a directory. -/
structure Cleared (t after : Tree) (place names : List String) : Prop where
  working : after.working = t.working
  removed : ∀ name ∈ names, after.view? (place ++ [name]) = none
  others : ∀ p, (∀ name ∈ names, p ≠ place ++ [name]) → after.view? p = t.view? p

/-- `after` has a directory, and in it the tables `files` and no other; otherwise it is `t`. -/
structure Replaced (t after : Tree) (place : List String) (files : List (String × String)) :
    Prop where
  working : after.working = t.working
  directories : ∀ p, p <+: place → after.view? p = some .directory
  tables : ∀ name ∈ tableFiles,
    after.view? (place ++ [name]) = (files.lookup name).map fun text => .file text.toUTF8
  others : ∀ p, ¬ p <+: place → (∀ name ∈ tableFiles, p ≠ place ++ [name]) →
    after.view? p = t.view? p

end Tree

/-! ## Removing -/

section Removing

variable {t after : Tree} {dir : Path} {place names : List String} {name : String}

theorem ne_append_of_isPrefix {p : List String} (le : p <+: place) (name : String) :
    p ≠ place ++ [name] := by
  rintro rfl
  have longer := le.length_le
  rw [List.length_append, List.length_singleton] at longer
  omega

theorem Tree.Cleared.view?_of_isPrefix {p : List String} (cleared : t.Cleared after place names)
    (le : p <+: place) : after.view? p = t.view? p :=
  cleared.others p fun name _ => ne_append_of_isPrefix le name

theorem Tree.Cleared.open (cleared : t.Cleared after place names) (free : t.root.Open place) :
    after.root.Open place := by
  intro p le bytes
  have same : after.root.view? p = t.root.view? p := cleared.view?_of_isPrefix le
  rw [same]
  exact free p le bytes

theorem Tree.cleared_nil (t : Tree) (place : List String) : t.Cleared t place [] :=
  ⟨rfl, fun _ mem => (nomatch mem), fun _ _ => rfl⟩

theorem Tree.removable_of_directory (here : t.view? (place ++ [name]) = some .directory)
    (names : List String) : t.removable place (name :: names) = [] :=
  List.takeWhile_cons_of_neg (by simp only [here]; decide)

theorem Tree.removable_of_ne_directory (here : t.view? (place ++ [name]) ≠ some .directory)
    (names : List String) :
    t.removable place (name :: names) = name :: t.removable place names :=
  List.takeWhile_cons_of_pos (decide_eq_true here)

theorem removable_eq_self_iff :
    t.removable place names = names ↔
      ∀ name ∈ names, t.view? (place ++ [name]) ≠ some .directory := by
  induction names with
  | nil => simp [Tree.removable]
  | cons name rest ih =>
    by_cases here : t.view? (place ++ [name]) = some .directory
    · rw [Tree.removable_of_directory here]
      simp [here]
    · rw [Tree.removable_of_ne_directory here, List.cons_inj_right, ih, List.forall_mem_cons]
      exact (and_iff_right here).symm

theorem Tree.cleared_of_view?
    (working : after.working = t.working)
    (view : ∀ p, after.view? p = if p = place ++ [name] then none else t.view? p) :
    t.Cleared after place [name] := by
  refine ⟨working, ?_, ?_⟩
  · intro n mem
    rw [List.mem_singleton.1 mem, view, if_pos rfl]
  · intro p other
    rw [view, if_neg (other name List.mem_cons_self)]

theorem Tree.Cleared.trans {last : Tree} (first : t.Cleared after place [name])
    (second : after.Cleared last place names) : t.Cleared last place (name :: names) := by
  refine ⟨second.working.trans first.working, ?_, ?_⟩
  · intro n mem
    by_cases later : n ∈ names
    · exact second.removed n later
    · obtain rfl : n = name := (List.mem_cons.1 mem).resolve_right later
      have kept : last.view? (place ++ [n]) = after.view? (place ++ [n]) := by
        refine second.others _ ?_
        intro m hm same
        rw [List.append_cancel_left_eq, List.singleton_inj] at same
        exact later (same ▸ hm)
      rw [kept]
      exact first.removed n List.mem_cons_self
  · intro p other
    rw [second.others p fun n mem => other n (List.mem_cons_of_mem name mem)]
    refine first.others p fun n mem => ?_
    rw [List.mem_singleton.1 mem]
    exact other name List.mem_cons_self

/-- A tree where one file is gone has the same directories. -/
theorem Tree.Cleared.removable_eq (cleared : t.Cleared after place [name])
    (target : t.view? (place ++ [name]) ≠ some .directory) (names : List String) :
    after.removable place names = t.removable place names := by
  unfold Tree.removable
  congr 1
  funext n
  by_cases same : n = name
  · rw [same, cleared.removed name List.mem_cons_self]
    simp [target]
  · rw [cleared.others]
    intro m mem eq
    rw [List.mem_singleton.1 mem, List.append_cancel_left_eq, List.singleton_inj] at eq
    exact same eq

theorem run_removeFiles_of_removed {result : Except DiskFault Unit}
    (removed : t.remove dir name = (after, result))
    (gone : result = .ok () ∨ result = .error .notFound) :
    (removeFiles dir (name :: names) : StateM Tree (Except DiskFault Unit)).run t =
      (removeFiles dir names : StateM Tree (Except DiskFault Unit)).run after := by
  rw [removeFiles, run_bind, run_remove, removed]
  rcases gone with rfl | rfl <;> rfl

theorem run_removeFiles_of_error {fault : DiskFault}
    (failed : t.remove dir name = (after, .error fault)) (ne : fault ≠ .notFound) :
    (removeFiles dir (name :: names) : StateM Tree (Except DiskFault Unit)).run t =
      (.error fault, after) := by
  rw [removeFiles, run_bind, run_remove, failed]
  cases fault with
  | notFound => exact absurd rfl ne
  | _ => rfl

theorem run_removeFiles_of_missing
    (missing : ∀ name ∈ names, t.remove dir name = (t, .error .notFound)) :
    (removeFiles dir names : StateM Tree (Except DiskFault Unit)).run t = (.ok (), t) := by
  induction names with
  | nil => rfl
  | cons name rest ih =>
    rw [run_removeFiles_of_removed (missing name List.mem_cons_self) (.inr rfl)]
    exact ih fun n mem => missing n (List.mem_cons_of_mem name mem)

variable {directories : List String} (home : t.view? t.working = some .directory)
  (down : dir.Descends directories)

include home down

/-- Where no file is in the way, files are removed up to the first that is a directory. -/
theorem removeFiles_of_open (rooms : ∀ name ∈ names, dir.HasRoomFor name)
    (free : t.root.Open (t.working ++ directories)) :
    ∃ result after,
      (removeFiles dir names : StateM Tree (Except DiskFault Unit)).run t = (result, after) ∧
      (result = .ok () ∧ t.removable (t.working ++ directories) names = names ∨
        (∃ fault, result = .error fault) ∧
          t.removable (t.working ++ directories) names ≠ names) ∧
      t.Cleared after (t.working ++ directories)
        (t.removable (t.working ++ directories) names) := by
  induction names generalizing t with
  | nil => exact ⟨_, t, rfl, .inl ⟨rfl, rfl⟩, t.cleared_nil _⟩
  | cons n rest ih =>
    have room := rooms n List.mem_cons_self
    by_cases target : t.view? (t.working ++ directories ++ [n]) = some .directory
    · obtain ⟨fault, failed, ne⟩ := Tree.remove_of_blocked home down room (.inr target)
      rw [Tree.removable_of_directory target]
      exact ⟨_, t, run_removeFiles_of_error failed ne, .inr ⟨⟨fault, rfl⟩, by simp⟩,
        t.cleared_nil _⟩
    · obtain ⟨next, result, removed, gone, working, view⟩ :=
        Tree.remove_of_open down room free target
      have cleared : t.Cleared next (t.working ++ directories) [n] :=
        Tree.cleared_of_view? working view
      have home' : next.view? next.working = some .directory := by
        rw [working, cleared.view?_of_isPrefix (List.prefix_append _ _)]
        exact home
      have free' : next.root.Open (next.working ++ directories) := by
        rw [working]
        exact cleared.open free
      obtain ⟨result', after, run, verdict, more⟩ :=
        ih home' (fun name mem => rooms name (List.mem_cons_of_mem n mem)) free'
      rw [working, cleared.removable_eq target] at verdict more
      rw [Tree.removable_of_ne_directory target]
      refine ⟨result', after, ?_, ?_, cleared.trans more⟩
      · rw [run_removeFiles_of_removed removed gone, run]
      · simpa using verdict

/-- Where a file is in the way, nothing is removed. -/
theorem removeFiles_of_blocked (room : dir.HasRoomFor name)
    (blocked : ¬ t.root.Open (t.working ++ directories)) :
    ∃ fault, (removeFiles dir (name :: names) : StateM Tree (Except DiskFault Unit)).run t =
      (.error fault, t) := by
  obtain ⟨fault, failed, ne⟩ := Tree.remove_of_blocked home down room (.inl blocked)
  exact ⟨fault, run_removeFiles_of_error failed ne⟩

end Removing

/-! ## Writing -/

theorem nodup_files (a : Analysis) (format : Format) :
    ((a.files format).map Prod.fst).Nodup := by
  cases format with
  | text =>
    show [symbolFile, addressFile, tokenFile].Nodup
    decide
  | json =>
    show [documentFile].Nodup
    decide

/-- `after` is `t` with some files of a directory replaced. -/
structure Tree.Written (t after : Tree) (place : List String) (files : List (String × String)) :
    Prop where
  working : after.working = t.working
  written : ∀ name text, files.lookup name = some text →
    after.view? (place ++ [name]) = some (.file text.toUTF8)
  others : ∀ p, (∀ file ∈ files, p ≠ place ++ [file.1]) → after.view? p = t.view? p

section Writing

variable {t next after : Tree} {dir : Path} {place directories : List String} {name text : String}
  {files : List (String × String)}

/-- One file is written, and then others of other names. -/
theorem Tree.Written.cons (working : next.working = t.working)
    (view : ∀ p, next.view? p =
      if p = place ++ [name] then some (.file text.toUTF8) else t.view? p)
    (others : ∀ file ∈ files, file.1 ≠ name) (rest : next.Written after place files) :
    t.Written after place ((name, text) :: files) := by
  refine ⟨rest.working.trans working, ?_, ?_⟩
  · intro n other found
    rw [List.lookup_cons] at found
    by_cases same : n = name
    · subst same
      rw [beq_self_eq_true] at found
      cases found
      rw [rest.others, view, if_pos rfl]
      intro file mem eq
      rw [List.append_cancel_left_eq, List.singleton_inj] at eq
      exact others file mem eq.symm
    · rw [beq_false_of_ne same] at found
      exact rest.written n other found
  · intro p other
    rw [rest.others p fun file mem => other file (List.mem_cons_of_mem _ mem), view,
      if_neg (other _ List.mem_cons_self)]

variable (down : dir.Descends directories)

include down

/-- Files are written into a directory that is there and has no directory of their names. -/
theorem writeFiles_of_directory (rooms : ∀ file ∈ files, dir.HasRoomFor file.1)
    (parent : t.view? (t.working ++ directories) = some .directory)
    (targets : ∀ file ∈ files,
      t.view? (t.working ++ directories ++ [file.1]) ≠ some .directory)
    (distinct : (files.map Prod.fst).Nodup) :
    ∃ after,
      (writeFiles dir files : StateM Tree (Except DiskFault (List Path))).run t =
        (.ok (files.map fun file => dir.child file.1), after) ∧
      t.Written after (t.working ++ directories) files := by
  induction files generalizing t with
  | nil => exact ⟨t, rfl, rfl, fun _ _ h => (nomatch h), fun _ _ => rfl⟩
  | cons file rest ih =>
    obtain ⟨name, text⟩ := file
    rw [List.map_cons, List.nodup_cons] at distinct
    obtain ⟨next, wrote, working, view⟩ := Tree.write_of_directory down
      (rooms _ List.mem_cons_self) text.toUTF8 parent (targets _ List.mem_cons_self)
    have ne : ∀ file ∈ rest, file.1 ≠ name := by
      intro file mem same
      exact distinct.1 (List.mem_map.2 ⟨file, mem, same⟩)
    have parent' : next.view? (next.working ++ directories) = some .directory := by
      rw [working, view, if_neg (ne_append_of_isPrefix (List.prefix_refl _) name)]
      exact parent
    have targets' : ∀ file ∈ rest,
        next.view? (next.working ++ directories ++ [file.1]) ≠ some .directory := by
      intro file mem
      rw [working, view, if_neg]
      · exact targets file (List.mem_cons_of_mem _ mem)
      · rw [List.append_cancel_left_eq, List.singleton_inj]
        exact ne file mem
    obtain ⟨after, run, written⟩ := ih
      (fun file mem => rooms file (List.mem_cons_of_mem _ mem)) parent' targets' distinct.2
    rw [working] at written
    refine ⟨after, ?_, written.cons working view ne⟩
    rw [writeFiles, run_bind, run_write, wrote]
    simp only [Prod.swap_prod_mk, run_bind, run]
    rfl

end Writing

/-! ## Calls -/

section Calls

variable {t : Tree} {dir : Path} {directories : List String}
  (home : t.view? t.working = some .directory) (leads : dir.LeadsToTables directories)

include home leads

/-- Where nothing stops a call, it removes all tables that are there. -/
theorem removeTables_of_canReplace (can : t.CanReplace (t.working ++ directories)) :
    ∃ after, (removeTables dir : StateM Tree (Except DiskFault Unit)).run t = (.ok (), after) ∧
      t.Cleared after (t.working ++ directories) tableFiles := by
  obtain ⟨result, after, removal, verdict, clear⟩ :=
    removeFiles_of_open home leads.toDescends (fun name => leads.hasRoomFor) can.free
  rw [removable_eq_self_iff.2 can.tables] at verdict clear
  obtain ⟨rfl, -⟩ := verdict.resolve_right fun stopped => stopped.2 rfl
  exact ⟨after, removal, clear⟩

/-- Where something stops a call, it stops the removal, which has removed the tables in front of the
first one that is a directory. -/
theorem removeTables_of_not_canReplace (stopped : ¬ t.CanReplace (t.working ++ directories)) :
    ∃ fault after,
      (removeTables dir : StateM Tree (Except DiskFault Unit)).run t = (.error fault, after) ∧
      t.Cleared after (t.working ++ directories)
        (t.removable (t.working ++ directories) tableFiles) := by
  by_cases free : t.root.Open (t.working ++ directories)
  · obtain ⟨result, after, removal, verdict, clear⟩ :=
      removeFiles_of_open home leads.toDescends (fun name => leads.hasRoomFor) free
    rcases verdict with ⟨-, all⟩ | ⟨⟨fault, rfl⟩, -⟩
    · exact absurd ⟨free, removable_eq_self_iff.1 all⟩ stopped
    · exact ⟨fault, after, removal, clear⟩
  · have room := leads.hasRoomFor (List.mem_cons_self : symbolFile ∈ tableFiles)
    obtain ⟨fault, removal⟩ := removeFiles_of_blocked home leads.toDescends room free
    refine ⟨fault, t, removal, rfl, ?_, fun _ _ => rfl⟩
    -- what is no directory has no tables
    intro name _
    exact Node.view?_append_cons fun directory => free (Node.open_of_directory directory)

/-- Where the tables are removed, the directory is made and is ready for new ones. -/
theorem createAll_of_cleared {clear : Tree} (free : t.root.Open (t.working ++ directories))
    (cleared : t.Cleared clear (t.working ++ directories) tableFiles) :
    ∃ made : Tree, clear.createAll dir = (made, .ok ()) ∧ made.working = t.working ∧
      (∀ p, p <+: t.working ++ directories → made.view? p = some .directory) ∧
      (∀ name ∈ tableFiles, made.view? (t.working ++ directories ++ [name]) = none) ∧
      ∀ p, ¬ p <+: t.working ++ directories →
        (∀ name ∈ tableFiles, p ≠ t.working ++ directories ++ [name]) →
        made.view? p = t.view? p := by
  have home' : clear.view? clear.working = some .directory := by
    rw [cleared.working, cleared.view?_of_isPrefix (List.prefix_append _ _)]
    exact home
  have free' : clear.root.Open (clear.working ++ directories) := by
    rw [cleared.working]
    exact cleared.open free
  obtain ⟨made, making, working, view⟩ := Tree.createAll_of_open home' leads.toDescends
    (leads.hasRoomFor (List.mem_cons_self : symbolFile ∈ tableFiles)) free'
  rw [cleared.working] at working view
  refine ⟨made, making, working, ?_, ?_, ?_⟩
  · intro p le
    rw [view, if_pos le]
  · intro name mem
    rw [view, if_neg, cleared.removed name mem]
    intro le
    exact ne_append_of_isPrefix le name rfl
  · intro p above other
    rw [view, if_neg above, cleared.others p other]

/-- A call that nothing stops removes the old tables and writes the new ones. -/
theorem replaceTables_of_canReplace (format : Format) (a : Analysis)
    (can : t.CanReplace (t.working ++ directories)) :
    ∃ after, t.replaceTables format dir a =
        (.ok ((a.files format).map fun file => dir.child file.1), after) ∧
      t.Replaced after (t.working ++ directories) (a.files format) := by
  obtain ⟨clear, removal, cleared⟩ := removeTables_of_canReplace home leads can
  obtain ⟨made, making, working, above, missing, kept⟩ :=
    createAll_of_cleared home leads can.free cleared
  have parent : made.view? (made.working ++ directories) = some .directory := by
    rw [working]
    exact above _ (List.prefix_refl _)
  have rooms : ∀ file ∈ a.files format, dir.HasRoomFor file.1 := fun file mem =>
    leads.hasRoomFor (mem_tableFiles_of_mem_files mem)
  have targets : ∀ file ∈ a.files format,
      made.view? (made.working ++ directories ++ [file.1]) ≠ some .directory := by
    intro file mem
    rw [working, missing _ (mem_tableFiles_of_mem_files mem)]
    simp
  obtain ⟨after, writing, written⟩ :=
    writeFiles_of_directory leads.toDescends rooms parent targets (nodup_files a format)
  rw [working] at written
  refine ⟨after, ?_, written.working.trans working, ?_, ?_, ?_⟩
  · unfold Tree.replaceTables writeTables writeInto
    rw [run_bind, removal]
    simp only
    rw [run_bind, run_createAll, making]
    exact writing
  · intro p le
    rw [written.others p fun file _ => ne_append_of_isPrefix le file.1, above p le]
  · intro name mem
    cases found : (a.files format).lookup name with
    | some text => exact written.written name text found
    | none =>
      rw [List.lookup_eq_none_iff] at found
      rw [written.others, missing name mem]
      · rfl
      · intro file hf same
        rw [List.append_cancel_left_eq, List.singleton_inj] at same
        simpa [same] using found file hf
  · intro p higher other
    rw [written.others p fun file mem => other _ (mem_tableFiles_of_mem_files mem),
      kept p higher other]

/-- A call that something stops has removed the tables in front of the first one that is a
directory, and changed nothing else. -/
theorem replaceTables_of_not_canReplace (format : Format) (a : Analysis)
    (stopped : ¬ t.CanReplace (t.working ++ directories)) :
    ∃ fault after, t.replaceTables format dir a = (.error fault, after) ∧
      t.Cleared after (t.working ++ directories)
        (t.removable (t.working ++ directories) tableFiles) := by
  obtain ⟨fault, after, removal, cleared⟩ := removeTables_of_not_canReplace home leads stopped
  refine ⟨fault, after, ?_, cleared⟩
  unfold Tree.replaceTables writeTables
  rw [run_bind, removal]
  rfl

/-- The working directory is still there after a call. -/
theorem home_of_replaceTables (format : Format) (a : Analysis) :
    (t.replaceTables format dir a).2.working = t.working ∧
      (t.replaceTables format dir a).2.view? t.working = some .directory := by
  by_cases can : t.CanReplace (t.working ++ directories)
  · obtain ⟨after, run, replaced⟩ := replaceTables_of_canReplace home leads format a can
    rw [run]
    exact ⟨replaced.working, replaced.directories _ (List.prefix_append _ _)⟩
  · obtain ⟨fault, after, run, cleared⟩ :=
      replaceTables_of_not_canReplace home leads format a can
    rw [run]
    refine ⟨cleared.working, ?_⟩
    exact (cleared.view?_of_isPrefix (List.prefix_append _ _)).trans home

end Calls

end Pseudocode
