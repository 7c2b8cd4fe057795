import Mathlib.Data.List.Sort
import TemplateSite.Proofs.Site.Interleaving

/-!
# What a site comes to

In every state in which all tasks have ended, the pages are those that the tasks end with alone, and
what is recorded for a resource is what its own task records. So all orders of the accesses come to
one outcome, and building the pages one after the other is one of these orders.
-/
namespace TemplateSite

/-! ### One page after the other -/

namespace Site

section InTurn

variable (options : Options) (partials : Source) (tree : FileTree)

def inTurn (registry : Registry) (paths : List Path) : Registry :=
  paths.foldl (fun registry path =>
    ((Task.start options partials tree path).after registry).registry) registry

/-- Building pages in order gives the pages of their tasks, unless one of these breaks down. -/
theorem buildAll_eq (registry : Registry) (paths : List Path) :
    buildAll options partials tree registry paths =
      if paths.all fun path => (Task.start options partials tree path).ending.isSome then
        some ⟨paths.filterMap fun path => (Task.start options partials tree path).ending,
          inTurn options partials tree registry paths⟩
      else none := by
  induction paths generalizing registry with
  | nil => rfl
  | cons path paths ih =>
    rw [buildAll, Task.buildPage_eq]
    cases h : (Task.start options partials tree path).ending with
    | none => simp [h]
    | some page =>
      simp only [Option.map_some, ih, List.all_cons, h, Option.isSome_some, Bool.true_and,
        List.filterMap_cons]
      split <;> rfl

end InTurn

end Site

namespace Progress

variable {options : Options} {partials : Source} {tree : FileTree} {paths : List Path}
  {p q : Progress}

theorem steps_accesses (waiting : List Path) (finished : List Task) (registry : Registry)
    (task : Task) :
    Steps options partials tree ⟨waiting, [task], finished, registry⟩
      ⟨waiting, [⟨task.path, (Access.runAll task.accesses ⟨registry, task.host⟩).host, [],
        task.ending⟩], finished, (Access.runAll task.accesses ⟨registry, task.host⟩).registry⟩ := by
  rcases task with ⟨path, host, accesses, ending⟩
  induction accesses generalizing host registry with
  | nil => exact .refl
  | cons access accesses ih =>
    exact .head (@Step.access _ _ _ _ [] _ _ _ _ _ _ _ _) (ih _ _)

/-- A page is built while no other task is at work. -/
theorem exists_steps_page (waiting : List Path) (finished : List Task) (registry : Registry)
    (path : Path) :
    ∃ task, Steps options partials tree ⟨path :: waiting, [], finished, registry⟩
      ⟨waiting, [], finished ++ [task],
        ((Task.start options partials tree path).after registry).registry⟩ := by
  have after : (Task.start options partials tree path).after registry =
      Access.runAll (Task.start options partials tree path).accesses
        ⟨(registry.begin path.text).1, (Task.start options partials tree path).host⟩ := by
    rw [Task.after, Task.start_path, Task.start_host]
    rfl
  rw [after]
  have begun := @Step.begin options partials tree path waiting [] finished registry
  have made := @steps_accesses options partials tree waiting finished
    (registry.begin path.text).1 (Task.start options partials tree path)
  have done := @Step.finish options partials tree waiting [] [] finished
  exact ⟨_, .head begun (made.tail done)⟩

/-- The tasks come to an end one after the other. -/
theorem exists_steps_inTurn (finished : List Task) (registry : Registry) (paths : List Path) :
    ∃ tasks, Steps options partials tree ⟨paths, [], finished, registry⟩
      ⟨[], [], tasks, Site.inTurn options partials tree registry paths⟩ := by
  induction paths generalizing finished registry with
  | nil => exact ⟨finished, .refl⟩
  | cons path paths ih =>
    obtain ⟨task, built⟩ := @exists_steps_page options partials tree paths finished registry path
    obtain ⟨tasks, rest⟩ := ih (finished ++ [task])
      ((Task.start options partials tree path).after registry).registry
    exact ⟨tasks, built.trans rest⟩

/-! ### All tasks have ended -/

/-- Sorting pages by their paths brings them to the one ascending order. -/
theorem mergeSort_eq_of_perm {pages sorted : List Page} (same : pages.Perm sorted)
    (ascending : sorted.Pairwise fun a b => a.path.key < b.path.key) :
    pages.mergeSort (fun a b => decide (a.path.key ≤ b.path.key)) = sorted := by
  have unique : (sorted.map fun page => page.path.key).Nodup :=
    List.pairwise_map.mpr (ascending.imp ne_of_lt)
  have sorts : (pages.mergeSort fun a b => decide (a.path.key ≤ b.path.key)).Pairwise
      fun a b => a.path.key ≤ b.path.key := by
    exact List.pairwise_mergeSort' (Order.Preimage (fun page : Page => page.path.key) (· ≤ ·)) pages
  have members := (List.mergeSort_perm pages fun a b => decide (a.path.key ≤ b.path.key)).trans same
  refine members.eq_of_pairwise ?_ sorts (ascending.imp le_of_lt)
  intro a b ha hb before after
  exact List.inj_on_of_nodup_map unique (members.mem_iff.mp ha) hb (le_antisymm before after)

section Ended

variable (sound : p.Sound options partials tree paths) (ended : p.Ended)

include sound ended

theorem Sound.perm_finished : (p.finished.map Task.path).Perm paths := by
  have places := sound.standing.places
  rw [tasks, ended.waiting, ended.running] at places
  exact places

theorem Sound.entry_of_mem {path : Path} (there : path ∈ paths) :
    p.registry.entry path.text =
      ((Task.start options partials tree path).after .empty).registry.entry path.text := by
  obtain ⟨task, mem, rfl⟩ := List.mem_map.mp ((sound.perm_finished ended).mem_iff.mpr there)
  have underway := sound.standing.underway task (List.mem_append_right _ mem)
  obtain ⟨made, accesses, alike⟩ := underway.made
  rw [sound.done task mem, List.append_nil] at accesses
  have entry := alike.entry
  dsimp only at entry
  rw [underway.resource, ← accesses] at entry
  rw [entry, Task.after, Task.start_path]
  rfl

theorem Sound.entry_of_not_mem {resource : String}
    (other : ∀ path ∈ paths, path.text ≠ resource) :
    p.registry.entry resource = (none, none) := by
  refine sound.standing.elsewhere resource fun task there => other task.path ?_
  rw [tasks, ended.running, List.nil_append] at there
  exact (sound.perm_finished ended).mem_iff.mp (List.mem_map_of_mem there)

theorem Sound.registry_eq (sound' : q.Sound options partials tree paths) (ended' : q.Ended) :
    p.registry = q.registry := by
  refine Registry.ext_entry fun resource => ?_
  by_cases there : ∃ path ∈ paths, path.text = resource
  · obtain ⟨path, there, rfl⟩ := there
    rw [sound.entry_of_mem ended there, sound'.entry_of_mem ended' there]
  · push Not at there
    rw [sound.entry_of_not_mem ended there, sound'.entry_of_not_mem ended' there]

theorem Sound.perm_endings :
    (p.finished.map Task.ending).Perm
      (paths.map fun path => (Task.start options partials tree path).ending) := by
  have same : p.finished.map Task.ending =
      (p.finished.map Task.path).map fun path =>
        (Task.start options partials tree path).ending := by
    rw [List.map_map]
    apply List.map_congr_left
    intro task there
    exact (sound.standing.underway task (List.mem_append_right _ there)).ending
  rw [same]
  exact (sound.perm_finished ended).map _

theorem Sound.report_eq (ascending : paths.Pairwise fun a b => a.key < b.key) :
    p.report =
      if paths.all fun path => (Task.start options partials tree path).ending.isSome then
        .ok ⟨paths.filterMap fun path => (Task.start options partials tree path).ending, p.registry⟩
      else .error .breakdown := by
  have endings := sound.perm_endings ended
  have all : (p.finished.all fun task => task.ending.isSome) =
      paths.all fun path => (Task.start options partials tree path).ending.isSome := by
    have all := endings.all_eq (f := Option.isSome)
    simpa only [List.all_map, Function.comp_def] using all
  have pages : (p.finished.filterMap Task.ending).Perm
      (paths.filterMap fun path => (Task.start options partials tree path).ending) := by
    have pages := endings.filterMap id
    simpa only [List.filterMap_map, Function.comp_def, id_eq] using pages
  have sorted : (paths.filterMap fun path =>
      (Task.start options partials tree path).ending).Pairwise
        fun a b => a.path.key < b.path.key := by
    apply List.Pairwise.filterMap _ _ ascending
    intro path other before page ending page' ending'
    rw [Task.path_of_ending ending, Task.path_of_ending ending']
    exact before
  rw [report, all, mergeSort_eq_of_perm pages sorted]

end Ended

theorem nodup_of_ascending (ascending : paths.Pairwise fun a b => a.key < b.key) :
    paths.Nodup := by
  apply ascending.imp
  rintro path _ before rfl
  exact lt_irrefl _ before

/-- Every end of a site whose paths are in ascending order has the outcome of building its pages one
after the other. -/
theorem report_eq_buildAll (ascending : paths.Pairwise fun a b => a.key < b.key)
    (steps : Steps options partials tree (start paths) p) (ended : p.Ended) :
    p.report = (Site.buildAll options partials tree .empty paths).elim (.error .breakdown) .ok := by
  have distinct := nodup_of_ascending ascending
  have sound := sound_start.steps distinct steps
  -- The pages one after the other are an end as well.
  obtain ⟨tasks, inTurn⟩ := @exists_steps_inTurn options partials tree [] .empty paths
  have sound' := sound_start.steps distinct inTurn
  rw [sound.report_eq ended ascending, sound.registry_eq ended sound' ⟨rfl, rfl⟩,
    Site.buildAll_eq]
  split <;> rfl

theorem entry_inTurn (distinct : paths.Nodup) {path : Path} (there : path ∈ paths) :
    (Site.inTurn options partials tree .empty paths).entry path.text =
      ((Task.start options partials tree path).after .empty).registry.entry path.text := by
  obtain ⟨tasks, inTurn⟩ := @exists_steps_inTurn options partials tree [] .empty paths
  exact (sound_start.steps distinct inTurn).entry_of_mem ⟨rfl, rfl⟩ there

end Progress
end TemplateSite
