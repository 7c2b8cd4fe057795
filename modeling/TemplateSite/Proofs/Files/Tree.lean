import Mathlib.Data.List.Sort
import TemplateSite.Files.Tree
import TemplateSite.Proofs.Files.Naming

/-!
# What is in a tree of files

In a tree whose entries have names of their own, the files of a directory are listed once each, in
ascending order.
-/
namespace TemplateSite.FileTree

variable {tree : FileTree} {path : Path} {location : Location}

def Named (location : Location) : Prop :=
  ∀ name ∈ location, FileName name.toList

instance (location : Location) : Decidable (Named location) :=
  inferInstanceAs (Decidable (∀ name ∈ location, FileName name.toList))

/-- Every entry has a place of its own, and all places are named by file names. -/
structure Proper (tree : FileTree) : Prop where
  workingDirectory : Named tree.workingDirectory
  names : ∀ entry ∈ tree.entries, Named entry.1
  distinct : (tree.entries.map Prod.fst).Nodup

/-! ### Listing a directory -/

/-- The name of a file that is directly inside a directory. -/
def fileInside? (location : Location) (entry : Location × FileEntry) : Option String :=
  match entry.2 with
  | .directory => none
  | .file _ => nameInside? location entry.1

theorem nameInside?_eq_some_iff {inside : Location} {name : String} :
    nameInside? location inside = some name ↔ inside = location ++ [name] := by
  rw [nameInside?]
  constructor
  · intro h
    split at h
    · cases h
    · rename_i last found
      split at h
      · rename_i same
        cases h
        rw [← same, List.dropLast_append_getLast? _ found]
      · cases h
  · rintro rfl
    simp

theorem eq_of_fileInside? {entry : Location × FileEntry} {name : String}
    (h : fileInside? location entry = some name) : entry.1 = location ++ [name] := by
  rw [fileInside?] at h
  split at h
  · cases h
  · exact nameInside?_eq_some_iff.mp h

/-- The names of the files of a directory, in the order of the entries. -/
def namesInside (tree : FileTree) (location : Location) : List String :=
  tree.entries.filterMap (fileInside? location)

theorem Proper.namesInside_nodup (proper : tree.Proper) : (tree.namesInside location).Nodup := by
  apply List.Pairwise.filterMap _ _ (List.pairwise_map.mp proper.distinct)
  intro entry other apart name its name' its' same
  apply apart
  rw [eq_of_fileInside? its, eq_of_fileInside? its', same]

theorem Proper.fileName_of_mem (proper : tree.Proper) {name : String}
    (h : name ∈ tree.namesInside location) : FileName name.toList := by
  obtain ⟨entry, there, inside⟩ := List.mem_filterMap.mp h
  apply proper.names entry there
  rw [eq_of_fileInside? inside]
  exact List.mem_concat_self

theorem Proper.fileNames?_ascending (proper : tree.Proper) {names : List String}
    (listed : tree.fileNames? path = some names) :
    names.Pairwise (· < ·) ∧ ∀ name ∈ names, FileName name.toList := by
  rw [fileNames?] at listed
  split at listed
  · rename_i location _
    cases listed
    let sorted := (tree.namesInside location).mergeSort fun a b => decide (a ≤ b)
    change sorted.Pairwise (· < ·) ∧ ∀ name ∈ sorted, FileName name.toList
    have members : sorted.Perm (tree.namesInside location) := List.mergeSort_perm _ _
    constructor
    · have distinct : sorted.Nodup := members.nodup_iff.mpr proper.namesInside_nodup
      exact List.Pairwise.imp₂ (fun _ _ => lt_of_le_of_ne)
        (List.pairwise_mergeSort' (· ≤ ·) _) distinct
    · intro name there
      exact proper.fileName_of_mem (members.mem_iff.mp there)
  · cases listed
    simp
  · cases listed

/-- Files whose entries come in the order of their names are listed as they come. -/
theorem fileNames?_of_sorted (located : tree.locate path = .ok (.existing location .directory))
    (sorted : (tree.namesInside location).Pairwise (· ≤ ·)) :
    tree.fileNames? path = some (tree.namesInside location) := by
  rw [fileNames?, located]
  exact congrArg some (List.mergeSort_eq_self (· ≤ ·) sorted)

end TemplateSite.FileTree
