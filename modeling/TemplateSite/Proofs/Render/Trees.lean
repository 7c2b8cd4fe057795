import TemplateSite.Proofs.Render.Simulation

/-!
# Trees of files

A rendering whose cache has only trees of files of its source in it comes by such trees only,
whether it finds a partial in the cache or reads and compiles the file. So what is to hold in
everything that it renders has to be asked of the template and of the files that compile.
-/
namespace TemplateSite

/-- Some file of the source compiles to these nodes. -/
def Source.HasTree (source : Source) (nodes : List Node) : Prop :=
  ∃ path content, source path = .ok content ∧ compile content = .ok nodes

theorem loadAnew_eq_ok {source : Source} {path : Path} {nodes : List Node} :
    loadAnew source path = .ok nodes ↔
      ∃ content, source path = .ok content ∧ compile content = .ok nodes := by
  rw [loadAnew]
  cases source path with
  | error cause => simp [Outcome.fault]
  | ok content => simp [mapError_eq_ok_iff]

theorem Library.read_eq_ok {library : Library} {path : Path} {content : String}
    (h : library.read path = .ok content) : library.find? path = some content := by
  rw [read] at h
  split at h
  · rename_i found there
    cases h
    exact there
  · cases h

theorem Library.exists_file_of_hasTree {library : Library} {nodes : List Node}
    (h : Source.HasTree library.read nodes) :
    ∃ file ∈ library.files, compile file.2 = .ok nodes := by
  rcases h with ⟨path, content, read, compiled⟩
  rcases Option.map_eq_some_iff.mp (Library.read_eq_ok read) with ⟨file, first, rfl⟩
  exact ⟨file, List.mem_of_find?_eq_some first, compiled⟩

namespace PartialCache

/-- Every entry is the tree of a file of the source. -/
def FromFiles (source : Source) (cache : PartialCache) : Prop :=
  ∀ entry ∈ cache, source.HasTree entry.2

theorem fromFiles_nil (source : Source) : FromFiles source [] := by
  intro entry there
  cases there

/-- A partial that is come by is the tree of a file, and so are all that are kept afterwards. -/
theorem FromFiles.load_matches {source : Source} {cache : PartialCache}
    (h : FromFiles source cache) (path : Path) :
    Outcome.Matches (fun _ => False)
      (fun x y => x = y ∧ source.HasTree x.1 ∧ FromFiles source x.2)
      (Loader.cached source path cache) (Loader.cached source path cache) := by
  rw [Loader.cached]
  cases found : cache.find? path with
  | some nodes =>
    rcases Option.map_eq_some_iff.mp found with ⟨entry, first, rfl⟩
    exact .ok ⟨rfl, h entry (List.mem_of_find?_eq_some first), h⟩
  | none =>
    cases loaded : loadAnew source path with
    | error failure => exact .same failure
    | ok nodes =>
      have tree : source.HasTree nodes := ⟨path, loadAnew_eq_ok.mp loaded⟩
      refine .ok ⟨rfl, tree, ?_⟩
      intro entry there
      rcases List.mem_cons.mp there with rfl | there
      · exact tree
      · exact h entry there

end PartialCache
end TemplateSite
