import TemplateSite.Proofs.Site.Tasks

/-!
# Tasks side by side

The states of a site whose tasks are at work, and how they follow each other: the next task is
begun, a task makes its next access to the registry, or a task that has nothing left to do ends. In
every state each task stands where it would stand if it were alone, and every state leads to one in
which all tasks have ended.
-/
namespace TemplateSite

/-- A site on its way: the pages whose tasks are not begun, the tasks at work, the tasks that have
ended, in this order, and the registry. -/
structure Progress where
  waiting : List Path
  running : List Task
  finished : List Task
  registry : Registry

namespace Progress

def start (paths : List Path) : Progress :=
  ⟨paths, [], [], .empty⟩

structure Ended (p : Progress) : Prop where
  waiting : p.waiting = []
  running : p.running = []

def tasks (p : Progress) : List Task :=
  p.running ++ p.finished

/-- What has become of the site: its pages in the order of their paths, unless a task broke
down. -/
def report (p : Progress) : Except SiteFault Site :=
  if p.finished.all fun task => task.ending.isSome then
    .ok ⟨(p.finished.filterMap Task.ending).mergeSort fun a b => decide (a.path.key ≤ b.path.key),
      p.registry⟩
  else .error .breakdown

section Steps

variable (options : Options) (partials : Source) (tree : FileTree)

/-- How a site goes on. -/
inductive Step : Progress → Progress → Prop where
  | begin {path : Path} {waiting : List Path} {running finished : List Task}
    {registry : Registry} :
    Step ⟨path :: waiting, running, finished, registry⟩
      ⟨waiting, running ++ [Task.start options partials tree path], finished,
        (registry.begin path.text).1⟩
  | access {waiting : List Path} {before after finished : List Task} {registry : Registry}
    {path : Path} {host : Host} {access : Access} {rest : List Access} {ending : Option Page} :
    Step ⟨waiting, before ++ ⟨path, host, access :: rest, ending⟩ :: after, finished, registry⟩
      ⟨waiting, before ++ ⟨path, (access.run ⟨registry, host⟩).host, rest, ending⟩ :: after,
        finished, (access.run ⟨registry, host⟩).registry⟩
  | finish {waiting : List Path} {before after finished : List Task} {registry : Registry}
    {path : Path} {host : Host} {ending : Option Page} :
    Step ⟨waiting, before ++ ⟨path, host, [], ending⟩ :: after, finished, registry⟩
      ⟨waiting, before ++ after, finished ++ [⟨path, host, [], ending⟩], registry⟩

def Steps : Progress → Progress → Prop :=
  Relation.ReflTransGen (Step options partials tree)

/-- The steps that are left: one for each access, and one to begin and one to end each task. -/
def left (p : Progress) : Nat :=
  (p.waiting.flatMap fun path => (Task.start options partials tree path).accesses).length +
    2 * p.waiting.length + (p.running.flatMap Task.accesses).length + p.running.length

end Steps

variable {options : Options} {partials : Source} {tree : FileTree} {p q : Progress}

/-! ### Coming to an end -/

theorem Step.left (h : Step options partials tree p q) :
    p.left options partials tree = q.left options partials tree + 1 := by
  cases h with
  | begin =>
    simp only [Progress.left, List.flatMap_cons, List.flatMap_append, List.flatMap_nil,
      List.length_append, List.length_cons, List.length_nil]
    omega
  | access =>
    simp only [Progress.left, List.flatMap_cons, List.flatMap_append, List.length_append,
      List.length_cons]
    omega
  | finish =>
    simp only [Progress.left, List.flatMap_cons, List.flatMap_append, List.length_append,
      List.length_cons, List.length_nil]
    omega

theorem exists_step (h : ¬ p.Ended) : ∃ q, Step options partials tree p q := by
  rcases p with ⟨_ | ⟨path, waiting⟩, running, finished, registry⟩
  · rcases running with _ | ⟨⟨path, host, _ | ⟨access, rest⟩, ending⟩, running⟩
    · exact absurd ⟨rfl, rfl⟩ h
    · exact ⟨_, @Step.finish _ _ _ _ [] _ _ _ _ _ _⟩
    · exact ⟨_, @Step.access _ _ _ _ [] _ _ _ _ _ _ _ _⟩
  · exact ⟨_, .begin⟩

theorem exists_ended (options : Options) (partials : Source) (tree : FileTree) (p : Progress) :
    ∃ q, Steps options partials tree p q ∧ q.Ended := by
  induction remain : p.left options partials tree using Nat.strong_induction_on generalizing p with
  | _ n ih =>
    by_cases ended : p.Ended
    · exact ⟨p, .refl, ended⟩
    · obtain ⟨q, step⟩ := @exists_step options partials tree p ended
      have fewer : q.left options partials tree < n := by
        rw [← remain, step.left]
        exact Nat.lt_succ_self _
      obtain ⟨r, steps, ended⟩ := ih _ fewer q rfl
      exact ⟨r, .head step steps, ended⟩

end Progress

/-! ### Where a task stands -/

/-- A task stands where it would stand alone: it has made the first of its accesses, and its host
and what is recorded for its resource are what they lead to. -/
structure Task.Underway (options : Options) (partials : Source) (tree : FileTree)
    (registry : Registry) (task : Task) : Prop where
  ending : task.ending = (Task.start options partials tree task.path).ending
  resource : task.host.resource = task.path.text
  made : ∃ made, (Task.start options partials tree task.path).accesses = made ++ task.accesses ∧
    BuildState.Alike ⟨registry, task.host⟩ (Access.runAll made (Task.alone task.path))

namespace Task

variable {options : Options} {partials : Source} {tree : FileTree} {registry other : Registry}

theorem underway_start (registry : Registry) (path : Path) :
    (start options partials tree path).Underway options partials tree
      (registry.begin path.text).1 := by
  refine ⟨by rw [start_path], by rw [start_host, start_path], [], ?_, ?_, ?_⟩
  · rw [start_path]
    rfl
  · rw [start_host, start_path]
    rfl
  · rw [start_host, start_path, Registry.entry_begin, if_pos rfl]
    exact ((Registry.entry_begin .empty _ _).trans (if_pos rfl)).symm

/-- Only what is recorded for its own resource matters to a task. -/
theorem Underway.congr {task : Task} (h : task.Underway options partials tree registry)
    (same : other.entry task.path.text = registry.entry task.path.text) :
    task.Underway options partials tree other := by
  obtain ⟨made, accesses, alike⟩ := h.made
  refine ⟨h.ending, h.resource, made, accesses, alike.host, ?_⟩
  have entry := alike.entry
  dsimp only at entry ⊢
  rw [← entry, h.resource, same]

theorem Underway.access {path : Path} {host : Host} {access : Access} {rest : List Access}
    {ending : Option Page}
    (h : Underway options partials tree registry ⟨path, host, access :: rest, ending⟩) :
    Underway options partials tree (access.run ⟨registry, host⟩).registry
      ⟨path, (access.run ⟨registry, host⟩).host, rest, ending⟩ := by
  obtain ⟨made, accesses, alike⟩ := h.made
  refine ⟨h.ending, (Access.run_resource access _).trans h.resource, made ++ [access], ?_, ?_⟩
  · rw [List.append_assoc]
    exact accesses
  · rw [Access.runAll, List.foldl_append]
    exact alike.run access

end Task

/-! ### Where all tasks stand -/

/-- Every path waits or has one task, each task stands where it would stand alone, and nothing is
recorded for other resources. -/
structure Standing (options : Options) (partials : Source) (tree : FileTree)
    (paths waiting : List Path) (tasks : List Task) (registry : Registry) : Prop where
  places : (waiting ++ tasks.map Task.path).Perm paths
  underway : ∀ task ∈ tasks, task.Underway options partials tree registry
  elsewhere : ∀ resource, (∀ task ∈ tasks, task.path.text ≠ resource) →
    registry.entry resource = (none, none)

namespace Standing

variable {options : Options} {partials : Source} {tree : FileTree} {paths waiting : List Path}
  {tasks others : List Task} {registry : Registry}

theorem perm (h : Standing options partials tree paths waiting tasks registry)
    (same : tasks.Perm others) : Standing options partials tree paths waiting others registry where
  places := ((same.map Task.path).symm.append_left waiting).trans h.places
  underway task there := h.underway task (same.mem_iff.mpr there)
  elsewhere resource apart :=
    h.elsewhere resource fun task there => apart task (same.mem_iff.mp there)

theorem apart (distinct : paths.Nodup) {task : Task}
    (h : Standing options partials tree paths waiting (task :: tasks) registry) :
    ∀ other ∈ tasks, task.path.text ≠ other.path.text := by
  intro other there same
  have nodup : (waiting ++ (task :: tasks).map Task.path).Nodup := h.places.nodup_iff.mpr distinct
  refine (List.nodup_cons.mp (List.nodup_append.mp nodup).2.1).1 (List.mem_map.mpr ?_)
  exact ⟨other, there, congrArg Path.mk same.symm⟩

theorem begin (distinct : paths.Nodup) {path : Path}
    (h : Standing options partials tree paths (path :: waiting) tasks registry) :
    Standing options partials tree paths waiting (Task.start options partials tree path :: tasks)
      (registry.begin path.text).1 := by
  have nodup : (path :: (waiting ++ tasks.map Task.path)).Nodup :=
    h.places.nodup_iff.mpr distinct
  have unbegun : ∀ task ∈ tasks, path.text ≠ task.path.text := by
    intro task there same
    refine (List.nodup_cons.mp nodup).1 (List.mem_append_right _ (List.mem_map.mpr ?_))
    exact ⟨task, there, congrArg Path.mk same.symm⟩
  refine ⟨?_, ?_, ?_⟩
  · rw [List.map_cons, Task.start_path]
    exact List.perm_middle.trans h.places
  · intro task there
    rcases List.mem_cons.mp there with rfl | there
    · exact Task.underway_start registry path
    · refine (h.underway task there).congr ?_
      rw [Registry.entry_begin, if_neg (unbegun task there)]
  · intro resource apart
    have other : path.text ≠ resource := by
      have apart := apart _ List.mem_cons_self
      rwa [Task.start_path] at apart
    rw [Registry.entry_begin, if_neg other]
    exact h.elsewhere resource fun task there => apart task (List.mem_cons_of_mem _ there)

theorem access (distinct : paths.Nodup) {path : Path} {host : Host} {access : Access}
    {rest : List Access} {ending : Option Page}
    (h : Standing options partials tree paths waiting
      (⟨path, host, access :: rest, ending⟩ :: tasks) registry) :
    Standing options partials tree paths waiting
      (⟨path, (access.run ⟨registry, host⟩).host, rest, ending⟩ :: tasks)
      (access.run ⟨registry, host⟩).registry := by
  have its : host.resource = path.text := (h.underway _ List.mem_cons_self).resource
  refine ⟨h.places, ?_, ?_⟩
  · intro task there
    rcases List.mem_cons.mp there with rfl | there
    · exact (h.underway _ List.mem_cons_self).access
    · refine (h.underway task (List.mem_cons_of_mem _ there)).congr ?_
      refine Access.entry_run_of_ne ?_
      rw [its]
      exact h.apart distinct task there
  · intro resource apart
    have other : path.text ≠ resource := apart _ List.mem_cons_self
    rw [Access.entry_run_of_ne (its.trans_ne other)]
    refine h.elsewhere resource fun task there => ?_
    rcases List.mem_cons.mp there with rfl | there
    · exact other
    · exact apart task (List.mem_cons_of_mem _ there)

end Standing

/-! ### What every state keeps -/

namespace Progress

variable {options : Options} {partials : Source} {tree : FileTree} {paths : List Path}
  {p q : Progress}

/-- All tasks stand where they would stand alone, and those that have ended have nothing left to
do. -/
structure Sound (options : Options) (partials : Source) (tree : FileTree) (paths : List Path)
    (p : Progress) : Prop where
  standing : Standing options partials tree paths p.waiting p.tasks p.registry
  done : ∀ task ∈ p.finished, task.accesses = []

theorem sound_start : (start paths).Sound options partials tree paths where
  standing :=
    { places := by simp [start, tasks]
      underway := by simp [start, tasks]
      elsewhere := fun resource _ => Registry.entry_empty resource }
  done := by simp [start]

/-- A task in the midst of the others, brought to the front. -/
theorem perm_tasks (before after finished : List Task) (task : Task) :
    (before ++ task :: after ++ finished).Perm (task :: (before ++ after ++ finished)) := by
  rw [List.append_assoc, List.append_assoc]
  exact List.perm_middle

theorem Sound.step (distinct : paths.Nodup) (h : p.Sound options partials tree paths)
    (step : Step options partials tree p q) : q.Sound options partials tree paths := by
  obtain ⟨standing, done⟩ := h
  cases step with
  | @begin path waiting running finished registry =>
    refine ⟨(standing.begin distinct).perm ?_, done⟩
    have moved := perm_tasks running [] finished (Task.start options partials tree path)
    rw [List.append_nil] at moved
    exact moved.symm
  | @access waiting before after finished registry path host access rest ending =>
    refine ⟨Standing.perm ?_ (perm_tasks before after finished _).symm, done⟩
    exact (standing.perm (perm_tasks before after finished _)).access distinct
  | @finish waiting before after finished registry path host ending =>
    refine ⟨standing.perm ((perm_tasks before after finished _).trans ?_), ?_⟩
    · rw [tasks, ← List.append_assoc]
      exact (List.perm_append_singleton _ _).symm
    · intro task there
      rcases List.mem_append.mp there with there | there
      · exact done task there
      · rw [List.mem_singleton.mp there]

theorem Sound.steps (distinct : paths.Nodup) (h : p.Sound options partials tree paths)
    (steps : Steps options partials tree p q) : q.Sound options partials tree paths := by
  induction steps with
  | refl => exact h
  | tail _ step ih => exact ih.step distinct step

end Progress
end TemplateSite
