/-
  Pseudocode.Proofs.Disk.Operations — what an operation does to a tree.

  A path may go down from the working directory by names alone. What an operation on a file in the
  directory of such a path does then depends on two things: whether some file is in the way of the
  directory, and what stands at the place of the file. It changes that place or nothing.

  Proved:
  (1) A path with a name added starts where the path starts, and is refused whenever the path is
      (`Path.isAbsolute_child`, `Path.refusal?_of_child`).
  (2) A file is removed, or was missing anyway, unless a file is in the way or a directory stands at
      its place (`Tree.remove_of_open`); then nothing changes (`Tree.remove_of_blocked`).
  (3) A directory is made where no file is in the way (`Tree.createAll_of_open`).
  (4) A file is written in a directory that is there (`Tree.write_of_directory`).
-/

import Pseudocode.Proofs.Disk.Entries

namespace Pseudocode

/-! ## Paths that go down -/

/-- A path that goes down from the working directory by names. -/
structure Path.Descends (dir : Path) (names : List String) : Prop where
  relative : dir.isAbsolute = false
  steps : dir.steps = names.map .into
  short : ∀ name ∈ names, IsShort name

/-- A directory path leaves room for a file of a name. -/
structure Path.HasRoomFor (dir : Path) (name : String) : Prop where
  short : IsShort name
  named : name.toList.head? ≠ some '/'
  accepted : (dir.child name).refusal? = none

namespace Path

theorem isAbsolute_child (p : Path) {name : String} (named : name.toList.head? ≠ some '/') :
    (p.child name).isAbsolute = p.isAbsolute := by
  unfold child isAbsolute
  cases h : p.text.toList with
  | nil =>
    have empty : p.text.isEmpty = true := by
      rw [String.isEmpty_iff, ← String.toList_eq_nil_iff, h]
    simp [empty, h, named]
  | cons c cs => split <;> simp [h]

theorem refusal?_eq_none_iff {p : Path} :
    p.refusal? = none ↔ '\x00' ∉ p.text.toList ∧ p.text.utf8ByteSize ≤ maxPathBytes := by
  unfold refusal? hasNull isTooLong
  by_cases null : '\x00' ∈ p.text.toList <;> simp [null]

/-- A path that can be extended by a name can be used itself. -/
theorem refusal?_of_child {p : Path} {name : String} (h : (p.child name).refusal? = none) :
    p.refusal? = none := by
  rw [refusal?_eq_none_iff] at h ⊢
  unfold child at h
  split at h
  · rw [String.toList_append, String.utf8ByteSize_append, List.mem_append, not_or] at h
    exact ⟨h.1.1, by omega⟩
  · simp only [String.toList_append, String.utf8ByteSize_append, List.mem_append, not_or] at h
    exact ⟨h.1.1.1, by omega⟩

end Path

/-! ## Operations -/

namespace Tree

/-- What stands at a place. -/
def view? (t : Tree) (place : List String) : Option Entry := t.root.view? place

section Operations

variable {t : Tree} {dir : Path} {names : List String} {name : String}
  (home : t.view? t.working = some .directory) (down : dir.Descends names)

include home in
/-- What is in the way of a place below the working directory lies below it too. -/
theorem exists_file_of_not_open (blocked : ¬ t.root.Open (t.working ++ names)) :
    ∃ p bytes, p <+: names ∧ t.view? (t.working ++ p) = some (.file bytes) := by
  simp only [Node.Open, Classical.not_forall, Classical.not_not] at blocked
  obtain ⟨p, le, bytes, file⟩ := blocked
  rcases List.prefix_or_prefix_of_prefix le (List.prefix_append t.working names) with
    above | ⟨q, rfl⟩
  · cases (Node.view?_of_isPrefix_of_directory above home).symm.trans file
  · exact ⟨q, bytes, (List.prefix_append_right_inj t.working).1 le, file⟩

variable (room : dir.HasRoomFor name)

include down room

theorem locate_child :
    t.locate (dir.child name) (dir.steps ++ [.into name]) =
      t.root.locate t.working ((names ++ [name]).map .into) := by
  have start : t.start (dir.child name) = t.working := by
    rw [start, Path.isAbsolute_child dir room.named, down.relative]
    rfl
  rw [locate, room.accepted, start, down.steps, List.map_append]
  rfl

theorem short_of_descends : ∀ n ∈ names ++ [name], IsShort n := by
  intro n mem
  rcases List.mem_append.1 mem with mem | mem
  · exact down.short n mem
  · rw [List.mem_singleton.1 mem]
    exact room.short

/-- A file in a directory that is there is written, unless a directory has its place. -/
theorem write_of_directory (bytes : ByteArray)
    (parent : t.view? (t.working ++ names) = some .directory)
    (target : t.view? (t.working ++ names ++ [name]) ≠ some .directory) :
    ∃ after : Tree, t.write dir name bytes = (after, .ok ()) ∧ after.working = t.working ∧
      ∀ other, after.view? other =
        if other = t.working ++ names ++ [name] then some (.file bytes) else t.view? other := by
  have view := Node.view?_put (Node.isLeaf_file bytes) parent target
  refine ⟨{ t with root := t.root.put (.file bytes) (t.working ++ names ++ [name]) }, ?_, rfl,
    view⟩
  unfold write
  rw [locate_child down room,
    Node.locate_of_directory (short_of_descends down room) parent]
  simp only
  split
  · rename_i entries found
    exact absurd (Node.view?_eq_directory_iff.2 ⟨entries, found⟩) target
  · rfl

/-- Where no file is in the way and no directory has its place, a file is missing afterwards. -/
theorem remove_of_open (free : t.root.Open (t.working ++ names))
    (target : t.view? (t.working ++ names ++ [name]) ≠ some .directory) :
    ∃ after result, t.remove dir name = (after, result) ∧
      (result = .ok () ∨ result = .error .notFound) ∧ after.working = t.working ∧
      ∀ other, after.view? other =
        if other = t.working ++ names ++ [name] then none else t.view? other := by
  have short := short_of_descends down room
  cases here : t.view? (t.working ++ names ++ [name]) with
  | none =>
    have result : t.remove dir name = (t, .error .notFound) := by
      unfold remove
      rw [locate_child down room]
      by_cases parent : t.root.view? (t.working ++ names) = some .directory
      · rw [Node.locate_of_directory short parent]
        have found : t.find? (t.working ++ names ++ [name]) = none := Node.view?_eq_none_iff.1 here
        simp only [found]
      · rw [Node.locate_of_missing short free parent]
    refine ⟨t, _, result, .inr rfl, rfl, ?_⟩
    intro other
    split
    · rename_i same
      rw [same, here]
    · rfl
  | some e =>
    cases e with
    | directory => exact absurd here target
    | file bytes =>
      have parent : t.root.view? (t.working ++ names) = some .directory :=
        Node.view?_of_isPrefix ⟨[name], rfl⟩ (by simp) here
      have found : t.find? (t.working ++ names ++ [name]) = some (.file bytes) :=
        Node.view?_eq_file_iff.1 here
      refine ⟨{ t with root := t.root.erase (t.working ++ names ++ [name]) }, .ok (), ?_,
        .inl rfl, rfl, Node.view?_erase (by simp) here⟩
      unfold remove
      rw [locate_child down room, Node.locate_of_directory short parent]
      simp only [found]

include home

/-- Where a file is in the way, or a directory has the place of a file, removing the file fails and
changes nothing. -/
theorem remove_of_blocked (blocked : ¬ t.root.Open (t.working ++ names) ∨
      t.view? (t.working ++ names ++ [name]) = some .directory) :
    ∃ fault, t.remove dir name = (t, .error fault) ∧ fault ≠ .notFound := by
  have short := short_of_descends down room
  unfold remove
  rw [locate_child down room]
  rcases blocked with blocked | directory
  · obtain ⟨p, bytes, le, file⟩ := exists_file_of_not_open home blocked
    rw [Node.locate_of_file short le file]
    exact ⟨_, rfl, by decide⟩
  · have parent : t.root.view? (t.working ++ names) = some .directory :=
      Node.view?_of_isPrefix ⟨[name], rfl⟩ (by simp) directory
    obtain ⟨entries, found⟩ := Node.view?_eq_directory_iff.1 directory
    have found : t.find? (t.working ++ names ++ [name]) = some (.directory entries) := found
    rw [Node.locate_of_directory short parent]
    simp only [found]
    exact ⟨_, rfl, by decide⟩

/-- Where no file is in the way, a directory is made with all above it, and nothing else changes. -/
theorem createAll_of_open (free : t.root.Open (t.working ++ names)) :
    ∃ after : Tree, t.createAll dir = (after, .ok ()) ∧ after.working = t.working ∧
      ∀ other, after.view? other =
        if other <+: t.working ++ names then some .directory else t.view? other := by
  obtain ⟨root, run, view⟩ := createSteps_of_open false down.short home free
  refine ⟨{ t with root }, ?_, rfl, view⟩
  have start : t.start dir = t.working := by
    rw [start, down.relative]
    rfl
  unfold createAll
  rw [Path.refusal?_of_child room.accepted, start, down.steps]
  simp only [run]

end Operations

end Tree

end Pseudocode
