import TemplateSite.Dependency.Registry
import TemplateSite.Proofs.Data.Record

/-!
# What the registry answers

The paths of a resource and whether it is cacheable after each operation on the registry. Its
records are in order, so the dependents of a path come in ascending order and are the resources for
which a path to the same place is recorded.
-/
namespace TemplateSite.Registry

variable {registry : Registry} {resource other : String}

theorem dependencies_begin (registry : Registry) (resource other : String) :
    (registry.begin resource).1.dependencies other =
      if resource = other then [] else registry.dependencies other := by
  rw [begin, dependencies, Record.get?_insert]
  split <;> rfl

theorem dependencies_mark (registry : Registry) (host : Host) (resource : String) :
    (registry.mark host).1.dependencies resource = registry.dependencies resource := by
  rw [mark]
  split <;> rfl

theorem dependencies_add (registry : Registry) (resource other : String) (path : Path) :
    (registry.add resource path).dependencies other =
      registry.dependencies other ++ if resource = other then [path] else [] := by
  rw [add, dependencies, Record.get?_insert]
  by_cases same : resource = other
  · subst same
    rw [if_pos rfl, if_pos rfl, Option.getD_some]
  · rw [if_neg same, if_neg same, List.append_nil]
    rfl

theorem dependencies_addAll (registry : Registry) (resource other : String) (paths : List Path) :
    (registry.addAll resource paths).dependencies other =
      registry.dependencies other ++ if resource = other then paths else [] := by
  induction paths generalizing registry with
  | nil =>
    rw [ite_self, List.append_nil]
    rfl
  | cons path paths ih =>
    change ((registry.add resource path).addAll resource paths).dependencies other = _
    rw [ih, dependencies_add, List.append_assoc]
    split <;> rfl

theorem isCacheable_begin (registry : Registry) (resource other : String) :
    (registry.begin resource).1.isCacheable other = true ↔
      resource ≠ other ∧ registry.isCacheable other = true := by
  rw [begin, isCacheable, isCacheable]
  by_cases same : resource = other
  · subst same
    simp [registry.cacheableOrdered.get?_erase_self]
  · simp [Record.get?_erase_of_ne (Ne.symm same), same]

theorem isCacheable_mark (registry : Registry) (host : Host) (resource : String) :
    (registry.mark host).1.isCacheable resource = true ↔
      registry.isCacheable resource = true ∨ host.marked = false ∧ host.resource = resource := by
  rw [mark]
  by_cases marked : host.marked = true
  · simp [marked]
  · rw [if_neg marked, isCacheable, Record.get?_insert]
    by_cases same : host.resource = resource
    · simp [marked, same]
    · simp [isCacheable, same]

theorem isCacheable_addAll (registry : Registry) (resource other : String) (paths : List Path) :
    (registry.addAll resource paths).isCacheable other = registry.isCacheable other := by
  induction paths generalizing registry with
  | nil => rfl
  | cons path paths ih => exact ih (registry.add resource path)

theorem mark_host (registry : Registry) (host : Host) :
    (registry.mark host).2 = { host with marked := true } := by
  rw [mark]
  rcases host with ⟨resource, marked⟩
  cases marked <;> rfl

theorem dependents_ascending (registry : Registry) (path : Path) :
    (registry.dependents path).Pairwise (· < ·) :=
  List.pairwise_map.mpr (registry.pathsOrdered.sublist List.filter_sublist)

theorem mem_dependents {path : Path} :
    resource ∈ registry.dependents path ↔
      ∃ p ∈ registry.dependencies resource, p.same path = true := by
  rw [dependents, List.mem_map, dependencies]
  constructor
  · rintro ⟨⟨_, paths⟩, there, rfl⟩
    rcases List.mem_filter.mp there with ⟨entry, found⟩
    rw [registry.pathsOrdered.mem_iff.mp entry, Option.getD_some]
    exact List.any_eq_true.mp found
  · rintro ⟨p, mem, same⟩
    cases found : registry.paths.get? resource with
    | none =>
      rw [found] at mem
      cases mem
    | some paths =>
      rw [found, Option.getD_some] at mem
      have entry := registry.pathsOrdered.mem_iff.mpr found
      exact ⟨(resource, paths),
        List.mem_filter.mpr ⟨entry, List.any_eq_true.mpr ⟨p, mem, same⟩⟩, rfl⟩

/-! ### What is recorded for one resource -/

/-- What is recorded for a resource: its paths, if a build of it has begun, and its mark. -/
def entry (registry : Registry) (resource : String) : Option (List Path) × Option Unit :=
  (registry.paths.get? resource, registry.cacheable.get? resource)

theorem entry_empty (resource : String) : empty.entry resource = (none, none) := rfl

theorem dependencies_eq_entry (registry : Registry) (resource : String) :
    registry.dependencies resource = (registry.entry resource).1.getD [] := rfl

theorem isCacheable_eq_entry (registry : Registry) (resource : String) :
    registry.isCacheable resource = (registry.entry resource).2.isSome := rfl

theorem ext_entry {first second : Registry}
    (same : ∀ resource, first.entry resource = second.entry resource) : first = second := by
  rcases first with ⟨paths, marks, h, hm⟩
  rcases second with ⟨paths', marks', h', hm'⟩
  obtain rfl := h.ext h' fun resource => congrArg Prod.fst (same resource)
  obtain rfl := hm.ext hm' fun resource => congrArg Prod.snd (same resource)
  rfl

theorem entry_begin (registry : Registry) (resource other : String) :
    (registry.begin resource).1.entry other =
      if resource = other then (some [], none) else registry.entry other := by
  rw [begin, entry, Record.get?_insert]
  by_cases same : resource = other
  · subst same
    rw [if_pos rfl, if_pos rfl, registry.cacheableOrdered.get?_erase_self]
  · rw [if_neg same, if_neg same, Record.get?_erase_of_ne (Ne.symm same)]
    rfl

theorem entry_mark (registry : Registry) (host : Host) (other : String) :
    (registry.mark host).1.entry other =
      if host.marked = false ∧ host.resource = other then ((registry.entry other).1, some ())
      else registry.entry other := by
  rw [mark]
  by_cases marked : host.marked = true
  · simp [marked]
  · by_cases same : host.resource = other <;> simp [marked, same, entry, Record.get?_insert]

theorem entry_add (registry : Registry) (resource other : String) (path : Path) :
    (registry.add resource path).entry other =
      if resource = other then
        (some ((registry.entry other).1.getD [] ++ [path]), (registry.entry other).2)
      else registry.entry other := by
  rw [add, entry, Record.get?_insert]
  by_cases same : resource = other
  · subst same
    rw [if_pos rfl, if_pos rfl]
    rfl
  · rw [if_neg same, if_neg same]
    rfl

end TemplateSite.Registry
