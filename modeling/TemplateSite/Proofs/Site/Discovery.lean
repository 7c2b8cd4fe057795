import TemplateSite.Proofs.Files.Tree
import TemplateSite.Site.Pages

/-!
# The pages of a directory

The pages that are discovered are the files of a directory whose names end in the extension, each
of them once. So their paths are in ascending order.
-/
namespace TemplateSite.Site

variable {tree : FileTree} {dir : Path} {extname : String} {paths : List Path}

theorem discover_eq_ok_iff :
    discover tree dir extname = .ok paths ↔
      ∃ names, tree.fileNames? dir = some names ∧
        paths = (names.filter fun name => extname.toList.isSuffixOf name.toList).map dir.join := by
  rw [discover]
  cases tree.fileNames? dir with
  | none => simp
  | some names => simp [eq_comm]

theorem discover_of_sorted {location : Location}
    (located : tree.locate dir = .ok (.existing location .directory))
    (sorted : (tree.namesInside location).Pairwise (· ≤ ·)) :
    discover tree dir extname =
      .ok (((tree.namesInside location).filter fun name =>
        extname.toList.isSuffixOf name.toList).map dir.join) :=
  discover_eq_ok_iff.mpr ⟨_, FileTree.fileNames?_of_sorted located sorted, rfl⟩

/-- What is discovered are names in the directory, in ascending order. -/
theorem exists_names_of_discover (proper : tree.Proper)
    (found : discover tree dir extname = .ok paths) :
    ∃ names : List String, paths = names.map dir.join ∧ names.Pairwise (· < ·) ∧
      ∀ name ∈ names, FileName name.toList ∧ extname.toList <:+ name.toList := by
  obtain ⟨names, listed, rfl⟩ := discover_eq_ok_iff.mp found
  obtain ⟨ascending, proper⟩ := proper.fileNames?_ascending listed
  refine ⟨_, rfl, ascending.sublist List.filter_sublist, ?_⟩
  intro name there
  obtain ⟨there, ends⟩ := List.mem_filter.mp there
  exact ⟨proper name there, List.isSuffixOf_iff_suffix.mp ends⟩

theorem discover_ascending (proper : tree.Proper) (found : discover tree dir extname = .ok paths) :
    paths.Pairwise fun a b => a.key < b.key := by
  obtain ⟨names, rfl, ascending, named⟩ := exists_names_of_discover proper found
  apply List.pairwise_map.mpr
  apply ascending.imp_of_mem
  intro a b ha hb before
  exact dir.key_join_lt (named a ha).1 (named b hb).1 before

end TemplateSite.Site
