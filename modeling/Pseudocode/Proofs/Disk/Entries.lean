/-
  Pseudocode.Proofs.Disk.Entries — a tree, place by place.

  What stands at a place is a file with its bytes, a directory, or nothing. Seen so, a tree is a
  function of places (`Node.view?`). Whatever stands at a place stands in directories all the way
  up, so a file or a gap has nothing below it. An operation that succeeds then changes one place:
  removing a file empties it, writing one or making a directory fills it.

  Steps that go by names alone lead to a place, or end at a file that is in the way or at a gap.

  Proved:
  (1) What stands below a place stands in a directory (`Node.view?_of_isPrefix`).
  (2) Filling and emptying one place leaves all others as they are (`Node.view?_put`,
      `Node.view?_erase`).
  (3) Where names lead from a place: to the place below (`Node.locate_of_directory`), to a file
      (`Node.locate_of_file`) or to a gap (`Node.locate_of_missing`).
  (4) Directories are made on the way to a place that no file is in the way of, and nothing else
      changes (`Tree.createSteps_of_open`).
-/

import Pseudocode.Disk.Tree

namespace Pseudocode

/-- What stands at a place, without what is in it. -/
inductive Entry where
  | file (bytes : ByteArray)
  | directory

-- Not derived: more than one instance decides the equality of bytes, and this one is named.
instance : DecidableEq Entry
  | .file bytes, .file others =>
    match ByteArray.decEq bytes others with
    | isTrue same => isTrue (congrArg Entry.file same)
    | isFalse differ => isFalse fun h => differ (Entry.file.inj h)
  | .file _, .directory => isFalse nofun
  | .directory, .file _ => isFalse nofun
  | .directory, .directory => isTrue rfl

namespace Node

def entry : Node → Entry
  | .file bytes => .file bytes
  | .directory _ => .directory

/-- What stands at a place of a tree. -/
def view? (root : Node) (place : List String) : Option Entry := (root.find? place).map entry

/-! ## Below a place -/

theorem find?_append (root : Node) (p q : List String) :
    root.find? (p ++ q) = (root.find? p).bind (find? · q) := by
  induction p generalizing root with
  | nil => rw [List.nil_append, find?_nil, Option.bind_some]
  | cons name rest ih =>
    cases root with
    | file bytes => rfl
    | directory entries =>
      rw [List.cons_append, find?, find?, Option.bind_assoc]
      congr 1
      funext child
      exact ih child

theorem view?_eq_directory_iff {root : Node} {p : List String} :
    root.view? p = some .directory ↔ ∃ entries, root.find? p = some (.directory entries) := by
  unfold view?
  cases root.find? p with
  | none => simp
  | some node => cases node <;> simp [entry]

theorem view?_eq_file_iff {root : Node} {p : List String} {bytes : ByteArray} :
    root.view? p = some (.file bytes) ↔ root.find? p = some (.file bytes) := by
  unfold view?
  cases root.find? p with
  | none => simp
  | some node => cases node <;> simp [entry]

theorem view?_eq_none_iff {root : Node} {p : List String} :
    root.view? p = none ↔ root.find? p = none := Option.map_eq_none_iff

/-- Whatever is not a directory has nothing below it. -/
theorem view?_append_cons {root : Node} {p q : List String} {name : String}
    (h : root.view? p ≠ some .directory) : root.view? (p ++ name :: q) = none := by
  rw [view?_eq_none_iff, find?_append]
  rw [Ne, view?_eq_directory_iff] at h
  cases found : root.find? p with
  | none => rfl
  | some node =>
    cases node with
    | file bytes => rfl
    | directory entries => exact absurd ⟨entries, found⟩ h

/-- What stands below a place stands in a directory. -/
theorem view?_of_isPrefix {root : Node} {p q : List String} {e : Entry} (le : p <+: q)
    (ne : p ≠ q) (h : root.view? q = some e) : root.view? p = some .directory := by
  obtain ⟨rest, rfl⟩ := le
  cases rest with
  | nil => exact absurd (List.append_nil p).symm ne
  | cons name rest =>
    by_cases directory : root.view? p = some .directory
    · exact directory
    · rw [view?_append_cons directory] at h
      cases h

/-- Directories lie in directories. -/
theorem view?_of_isPrefix_of_directory {root : Node} {p q : List String} (le : p <+: q)
    (h : root.view? q = some .directory) : root.view? p = some .directory := by
  by_cases eq : p = q
  · rw [eq, h]
  · exact view?_of_isPrefix le eq h

/-! ## One place changed -/

@[simp] theorem view?_nil (root : Node) : root.view? [] = some root.entry := by
  rw [view?, find?_nil, Option.map_some]

theorem view?_cons (entries : List (String × Node)) (name : String) (rest : List String) :
    (directory entries).view? (name :: rest) =
      (entries.lookup name).bind fun child => child.view? rest := by
  rw [view?, find?, Option.map_bind]
  rfl

/-- A node that has nothing in it. -/
def IsLeaf (node : Node) : Prop := ∀ name rest, node.view? (name :: rest) = none

theorem isLeaf_file (bytes : ByteArray) : (file bytes).IsLeaf := fun _ _ => rfl

theorem isLeaf_emptyDirectory : emptyDirectory.IsLeaf := fun _ _ => rfl

/-- Putting a leaf into a directory, in place of no directory, changes one place. -/
theorem view?_put {root node : Node} {dir : List String} {name : String} (leaf : node.IsLeaf)
    (parent : root.view? dir = some .directory)
    (target : root.view? (dir ++ [name]) ≠ some .directory) (other : List String) :
    (root.put node (dir ++ [name])).view? other =
      if other = dir ++ [name] then some node.entry else root.view? other := by
  induction dir generalizing root other with
  | nil =>
    cases root with
    | file bytes => cases parent
    | directory entries =>
      cases other with
      | nil => rfl
      | cons first rest =>
        rw [List.nil_append, put, put, view?_cons, view?_cons, lookup_setEntry]
        by_cases same : first = name
        · subst same
          rw [if_pos rfl, Option.bind_some]
          cases rest with
          | nil => rw [if_pos rfl, view?_nil]
          | cons next rest =>
            have below : (directory entries).view? ([] ++ [first] ++ next :: rest) = none :=
              view?_append_cons target
            rw [List.nil_append, List.singleton_append, view?_cons] at below
            rw [if_neg (by simp), leaf, below]
        · rw [if_neg same, if_neg (by simp [same])]
  | cons d ds ih =>
    cases root with
    | file bytes => cases parent
    | directory entries =>
      rw [view?_cons] at parent
      obtain ⟨child, found, inner⟩ := Option.bind_eq_some_iff.1 parent
      rw [List.cons_append, view?_cons, found, Option.bind_some] at target
      cases other with
      | nil => rfl
      | cons first rest =>
        rw [List.cons_append, put, view?_cons, view?_cons, lookup_setEntry, found,
          Option.getD_some]
        by_cases same : first = d
        · subst same
          rw [if_pos rfl, Option.bind_some, ih inner target, found, Option.bind_some]
          simp only [List.cons.injEq, true_and]
        · rw [if_neg same, if_neg (by simp [same])]

theorem lookup_filter_of_ne {name other : String} (ne : other ≠ name)
    (entries : List (String × Node)) :
    (entries.filter (·.1 ≠ name)).lookup other = entries.lookup other := by
  induction entries with
  | nil => rfl
  | cons entry rest ih =>
    obtain ⟨n, node⟩ := entry
    by_cases h : n = name
    · subst h
      have differs : (other == n) = false := beq_false_of_ne ne
      simpa [List.lookup_cons, differs] using ih
    · have kept : ((n, node) :: rest).filter (·.1 ≠ name) =
          (n, node) :: rest.filter (·.1 ≠ name) := by simp [h]
      rw [kept, List.lookup_cons, List.lookup_cons, ih]

/-- Erasing a file empties its place. -/
theorem view?_erase {root : Node} {place : List String} {bytes : ByteArray} (ne : place ≠ [])
    (file : root.view? place = some (.file bytes)) (other : List String) :
    (root.erase place).view? other = if other = place then none else root.view? other := by
  by_cases same : other = place
  · rw [if_pos same, same, view?_eq_none_iff]
    exact find?_erase_self ne
  rw [if_neg same]
  induction place generalizing root other with
  | nil => exact absurd rfl ne
  | cons name rest ih =>
    cases root with
    | file bytes => cases file
    | directory entries =>
      rw [view?_cons] at file
      obtain ⟨child, found, inner⟩ := Option.bind_eq_some_iff.1 file
      cases rest with
      | nil =>
        cases other with
        | nil => rfl
        | cons first more =>
          rw [erase, view?_cons, view?_cons]
          by_cases eq : first = name
          · subst eq
            -- below a file there is nothing
            cases more with
            | nil => exact absurd rfl same
            | cons next more =>
              have nothing : child.view? ([] ++ next :: more) = none :=
                view?_append_cons (by rw [inner]; simp)
              rw [lookup_filter_ne, found, Option.bind_none, Option.bind_some]
              exact nothing.symm
          · rw [lookup_filter_of_ne eq]
      | cons next last =>
        have erased : (directory entries).erase (name :: next :: last) =
            directory (setEntry name (child.erase (next :: last)) entries) := by
          simp [erase, found]
        rw [erased]
        cases other with
        | nil => rfl
        | cons first more =>
          rw [view?_cons, view?_cons, lookup_setEntry]
          by_cases eq : first = name
          · subst eq
            rw [if_pos rfl, Option.bind_some, found, Option.bind_some]
            exact ih (by simp) inner more fun h => same (by rw [h])
          · rw [if_neg eq]

end Node

/-! ## Ways by names -/

/-- A name that an entry can have. -/
def IsShort (name : String) : Prop := name.utf8ByteSize ≤ maxNameBytes

instance (name : String) : Decidable (IsShort name) :=
  inferInstanceAs (Decidable (_ ≤ _))

theorem isTooLong_into_of_isShort {name : String} (h : IsShort name) :
    (Step.into name).isTooLong = false :=
  decide_eq_false (Nat.not_lt.2 h)

namespace Node

/-- No file stands at a place or on the way to it. -/
def Open (root : Node) (place : List String) : Prop :=
  ∀ p, p <+: place → ∀ bytes, root.view? p ≠ some (.file bytes)

theorem open_of_directory {root : Node} {place : List String}
    (h : root.view? place = some .directory) : root.Open place := by
  intro p le bytes file
  cases (view?_of_isPrefix_of_directory le h).symm.trans file

section Ways

variable {root : Node} {place names : List String} {name : String}

/-- One more name is followed from a directory. -/
theorem locate_into {rest : List Step} (named : IsShort name)
    (here : root.view? place = some .directory) :
    root.locate place (.into name :: rest) = root.locate (place ++ [name]) rest := by
  obtain ⟨entries, found⟩ := view?_eq_directory_iff.1 here
  simp [locate, found, isTooLong_into_of_isShort named, Step.fromPlace]

variable (short : ∀ n ∈ names ++ [name], IsShort n)

include short

/-- Names lead on from a directory to the place below it that has them. -/
theorem locate_of_directory (parent : root.view? (place ++ names) = some .directory) :
    root.locate place ((names ++ [name]).map .into) = .ok (place ++ names ++ [name]) := by
  induction names generalizing place with
  | nil =>
    rw [List.append_nil] at parent ⊢
    rw [List.nil_append, List.map_singleton, locate_into (short name (by simp)) parent]
    rfl
  | cons n rest ih =>
    rw [List.append_cons place n rest] at parent ⊢
    have here : root.view? place = some .directory :=
      view?_of_isPrefix_of_directory ⟨[n] ++ rest, by simp⟩ parent
    rw [List.cons_append, List.map_cons, locate_into (short n (by simp)) here]
    exact ih (fun x mem => short x (List.mem_cons_of_mem n mem)) parent

/-- Names cannot be followed through a file. -/
theorem locate_of_file {p : List String} {bytes : ByteArray} (le : p <+: names)
    (file : root.view? (place ++ p) = some (.file bytes)) :
    root.locate place ((names ++ [name]).map .into) = .error .notADirectory := by
  induction names generalizing place p with
  | nil =>
    rw [List.prefix_nil.1 le, List.append_nil, view?_eq_file_iff] at file
    simp [locate, file]
  | cons n rest ih =>
    cases p with
    | nil =>
      rw [List.append_nil, view?_eq_file_iff] at file
      simp [locate, file]
    | cons m p =>
      obtain ⟨rfl, below⟩ := List.cons_prefix_cons.1 le
      have here : root.view? place = some .directory :=
        view?_of_isPrefix ⟨_, rfl⟩ (by simp) file
      rw [List.append_cons] at file
      rw [List.cons_append, List.map_cons, locate_into (short m (by simp)) here]
      exact ih (fun x mem => short x (List.mem_cons_of_mem m mem)) below file

/-- Names end at the first gap, if no file stands before it. -/
theorem locate_of_missing (free : root.Open (place ++ names))
    (missing : root.view? (place ++ names) ≠ some .directory) :
    root.locate place ((names ++ [name]).map .into) = .error .notFound := by
  induction names generalizing place with
  | nil =>
    rw [List.append_nil] at free missing
    cases here : root.view? place with
    | none => simp [locate, view?_eq_none_iff.1 here]
    | some e =>
      cases e with
      | file bytes => exact absurd here (free place (List.prefix_refl _) bytes)
      | directory => exact absurd here missing
  | cons n rest ih =>
    cases here : root.view? place with
    | none => simp [locate, view?_eq_none_iff.1 here]
    | some e =>
      cases e with
      | file bytes => exact absurd here (free place ⟨_, rfl⟩ bytes)
      | directory =>
        rw [List.append_cons] at free missing
        rw [List.cons_append, List.map_cons, locate_into (short n (by simp)) here]
        exact ih (fun x mem => short x (List.mem_cons_of_mem n mem)) free missing

end Ways

end Node

namespace Tree

/-! ## Directories made by names -/

section Steps

variable {root : Node} {place names : List String} {n : String} {rest : List Step} {made : Bool}

/-- A directory that is there is gone through. -/
theorem createSteps_of_directory (short : IsShort n)
    (here : root.view? (place ++ [n]) = some .directory) :
    createSteps made place (.into n :: rest) root = createSteps made (place ++ [n]) rest root := by
  obtain ⟨entries, found⟩ := Node.view?_eq_directory_iff.1 here
  simp [createSteps, isTooLong_into_of_isShort short, Step.fromPlace, found]

/-- A directory that is missing is made, unless only dots lead on. -/
theorem createSteps_of_missing (short : IsShort n) (missing : root.view? (place ++ [n]) = none)
    (onward : ¬ (rest ≠ [] ∧ rest.all (· = .here))) :
    createSteps made place (.into n :: rest) root =
      createSteps true (place ++ [n]) rest (root.put Node.emptyDirectory (place ++ [n])) := by
  rw [createSteps, isTooLong_into_of_isShort short]
  simp only [Bool.false_eq_true, if_false, Step.fromPlace, Node.view?_eq_none_iff.1 missing]
  rw [if_neg onward]

/-- A new directory changes one place. -/
theorem view?_put_emptyDirectory (here : root.view? place = some .directory)
    (missing : root.view? (place ++ [n]) = none) (other : List String) :
    (root.put Node.emptyDirectory (place ++ [n])).view? other =
      if other = place ++ [n] then some .directory else root.view? other :=
  Node.view?_put Node.isLeaf_emptyDirectory here (by simp [missing]) other

/-- Where no file is in the way, directories are made wherever they are missing on the way to a
place, and nothing else changes. -/
theorem createSteps_of_open (made : Bool) (short : ∀ n ∈ names, IsShort n)
    (here : root.view? place = some .directory) (free : root.Open (place ++ names)) :
    ∃ after, createSteps made place (names.map .into) root = (after, .ok ()) ∧
      ∀ other, after.view? other =
        if other <+: place ++ names then some .directory else root.view? other := by
  induction names generalizing root place made with
  | nil =>
    refine ⟨root, rfl, ?_⟩
    intro other
    split
    · rename_i le
      rw [List.append_nil] at le
      exact Node.view?_of_isPrefix_of_directory le here
    · rfl
  | cons n rest ih =>
    have short' : ∀ x ∈ rest, IsShort x := fun x mem => short x (List.mem_cons_of_mem n mem)
    rw [List.append_cons] at free ⊢
    rw [List.map_cons]
    cases next : root.view? (place ++ [n]) with
    | some e =>
      cases e with
      | file bytes => exact absurd next (free _ ⟨rest, rfl⟩ bytes)
      | directory =>
        rw [createSteps_of_directory (short n List.mem_cons_self) next]
        exact ih made short' next free
    | none =>
      -- the directory that is made here is the one that the rest goes on from
      have view := view?_put_emptyDirectory here next
      have next' : (root.put Node.emptyDirectory (place ++ [n])).view? (place ++ [n]) =
          some .directory := by rw [view, if_pos rfl]
      have free' : (root.put Node.emptyDirectory (place ++ [n])).Open (place ++ [n] ++ rest) := by
        intro p le bytes
        rw [view]
        split
        · simp
        · exact free p le bytes
      have onward : ¬ (rest.map Step.into ≠ [] ∧ (rest.map Step.into).all (· = .here)) := by
        cases rest <;> simp
      obtain ⟨after, run, view'⟩ := ih true short' next' free'
      rw [createSteps_of_missing (short n List.mem_cons_self) next onward]
      refine ⟨after, run, ?_⟩
      intro other
      rw [view', view]
      by_cases le : other <+: place ++ [n] ++ rest
      · rw [if_pos le, if_pos le]
      · rw [if_neg le, if_neg le, if_neg]
        rintro rfl
        exact le ⟨rest, rfl⟩

end Steps

end Tree

end Pseudocode
