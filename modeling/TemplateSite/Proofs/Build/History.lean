import Mathlib.Data.List.DropRight
import TemplateSite.Build.Session
import TemplateSite.Proofs.Dependency.Registry

/-!
# The registry and the history of a session

The registry says nothing but what the steps of the session did since the builds that it speaks of
began. The dependencies of a resource are the paths recorded through its handles since its last
beginning, and it is cacheable if one of them asked for that for the first time since then. Neither
the results of renderings nor steps for other resources have any part in it.
-/
namespace TemplateSite

/-- The dependencies that a build records: those of the template, if they are wanted and the
template compiles. -/
def Options.tracked (options : Options) (text : String) : List Path :=
  match options.dev, compile text with
  | true, .ok nodes => dependencies options nodes
  | _, _ => []

namespace SessionStep

def begins? : SessionStep → Option String
  | .begin resource => some resource
  | _ => none

def handle? : SessionStep → Option Nat
  | .add handle _ => some handle
  | .mark handle => some handle
  | .load handle _ => some handle
  | .loadWithCallback handle _ => some handle
  | .compile handle _ => some handle
  | _ => none

/-- Whether the step asks for the resource of its handle to be marked as cacheable. -/
def asks : SessionStep → Bool
  | .mark _ => true
  | .load _ _ => true
  | .loadWithCallback _ _ => true
  | .compile _ _ => true
  | _ => false

def records (options : Options) : SessionStep → List Path
  | .add _ path => [path]
  | .load _ text => options.tracked text
  | .loadWithCallback _ text => options.tracked text
  | .compile _ text => options.tracked text
  | _ => []

/-- The resource of the handle that the step works through, if the handle has been given out. -/
def resource? (step : SessionStep) (handles : List String) : Option String :=
  step.handle?.bind fun handle => handles[handle]?

end SessionStep

/-- The resources of the handles that steps give out, in order. -/
def handles (steps : List SessionStep) : List String :=
  steps.filterMap SessionStep.begins?

/-- Steps with the resources of the handles that they work through, where some handles have been
given out before. -/
def attributed : List String → List SessionStep → List (SessionStep × Option String)
  | _, [] => []
  | given, step :: rest =>
    (step, step.resource? given) :: attributed (given ++ step.begins?.toList) rest

/-- The paths recorded through handles of a resource since its last beginning, in order. -/
def recorded (options : Options) (resource : String) (steps : List SessionStep) : List Path :=
  ((attributed [] steps).rtakeWhile fun entry => entry.1.begins? ≠ some resource).flatMap
    fun entry => if entry.2 = some resource then entry.1.records options else []

/-- The step asks through a handle that the steps before it have given out. -/
structure Asks (before : List SessionStep) (step : SessionStep) (handle : Nat) : Prop where
  asks : step.asks = true
  through : step.handle? = some handle
  given : handle < (handles before).length

def Asked (steps : List SessionStep) (handle : Nat) : Prop :=
  ∃ before step after, steps = before ++ step :: after ∧ Asks before step handle

/-- Some handle of the resource asked for the first time after the last beginning of the
resource. -/
def Marked (resource : String) (steps : List SessionStep) : Prop :=
  ∃ before step after handle, steps = before ++ step :: after ∧
    Asks before step handle ∧ ¬ Asked before handle ∧
    (handles before)[handle]? = some resource ∧ ∀ later ∈ after, later.begins? ≠ some resource

section Histories

variable {options : Options} {resource : String} {steps before after : List SessionStep}
  {step other : SessionStep} {handle : Nat}

theorem concat_eq_append_cons_iff : steps ++ [step] = before ++ other :: after ↔
    (before = steps ∧ other = step ∧ after = []) ∨
      ∃ rest, after = rest ++ [step] ∧ steps = before ++ other :: rest := by
  rcases List.eq_nil_or_concat after with rfl | ⟨rest, last, rfl⟩
  · constructor
    · intro h
      obtain ⟨same, ends⟩ := List.append_inj' h rfl
      exact Or.inl ⟨same.symm, (List.singleton_inj.mp ends).symm, rfl⟩
    · rintro (⟨rfl, rfl, -⟩ | ⟨rest, h, -⟩)
      · rfl
      · simp at h
  · rw [List.concat_eq_append, ← List.cons_append, ← List.append_assoc]
    constructor
    · intro h
      obtain ⟨same, ends⟩ := List.append_inj' h rfl
      exact Or.inr ⟨rest, by rw [List.singleton_inj.mp ends], same⟩
    · rintro (⟨-, -, h⟩ | ⟨rest', h, rfl⟩)
      · simp at h
      · obtain ⟨rfl, ends⟩ := List.append_inj' h rfl
        rw [List.singleton_inj.mp ends]

theorem handles_concat (steps : List SessionStep) (step : SessionStep) :
    handles (steps ++ [step]) = handles steps ++ step.begins?.toList := by
  rw [handles, List.filterMap_append]
  cases h : step.begins? <;> simp [handles, h]

theorem attributed_concat (given : List String) (steps : List SessionStep) (step : SessionStep) :
    attributed given (steps ++ [step]) =
      attributed given steps ++ [(step, step.resource? (given ++ handles steps))] := by
  induction steps generalizing given with
  | nil => simp [attributed, handles]
  | cons first rest ih =>
    rw [List.cons_append, attributed, attributed, ih, List.cons_append, List.append_assoc]
    cases h : first.begins? <;> simp [handles, h]

theorem recorded_concat (options : Options) (resource : String) (steps : List SessionStep)
    (step : SessionStep) : recorded options resource (steps ++ [step]) =
      if step.begins? = some resource then []
      else recorded options resource steps ++
        if step.resource? (handles steps) = some resource then step.records options else [] := by
  rw [recorded, attributed_concat, List.rtakeWhile_concat]
  by_cases h : step.begins? = some resource
  · simp [h]
  · simp [h, recorded]

theorem Asked.given (h : Asked steps handle) : handle < (handles steps).length := by
  rcases h with ⟨before, step, after, rfl, asks⟩
  have given := asks.given
  rw [handles, List.filterMap_append, List.length_append]
  exact Nat.lt_add_right _ given

theorem asked_concat :
    Asked (steps ++ [step]) handle ↔ Asked steps handle ∨ Asks steps step handle := by
  constructor
  · rintro ⟨before, other, after, split, asks⟩
    rcases concat_eq_append_cons_iff.mp split with ⟨rfl, rfl, -⟩ | ⟨rest, -, rfl⟩
    · exact Or.inr asks
    · exact Or.inl ⟨before, other, rest, rfl, asks⟩
  · rintro (⟨before, other, after, rfl, asks⟩ | asks)
    · exact ⟨before, other, after ++ [step], by simp, asks⟩
    · exact ⟨steps, step, [], rfl, asks⟩

theorem marked_concat : Marked resource (steps ++ [step]) ↔
    (step.begins? ≠ some resource ∧ Marked resource steps) ∨
      ∃ handle, Asks steps step handle ∧ ¬ Asked steps handle ∧
        (handles steps)[handle]? = some resource := by
  constructor
  · rintro ⟨before, other, after, handle, split, asks, first, its, later⟩
    rcases concat_eq_append_cons_iff.mp split with ⟨rfl, rfl, -⟩ | ⟨rest, rfl, rfl⟩
    · exact Or.inr ⟨handle, asks, first, its⟩
    · rw [List.forall_mem_append, List.forall_mem_singleton] at later
      exact Or.inl ⟨later.2, before, other, rest, handle, rfl, asks, first, its, later.1⟩
  · rintro (⟨last, before, other, after, handle, rfl, asks, first, its, later⟩ |
      ⟨handle, asks, first, its⟩)
    · refine ⟨before, other, after ++ [step], handle, by simp, asks, first, its, ?_⟩
      rw [List.forall_mem_append, List.forall_mem_singleton]
      exact ⟨later, last⟩
    · exact ⟨steps, step, [], handle, rfl, asks, first, its, by simp⟩

end Histories

/-! ### What a step of a session moves -/

/-- A build marks through its host and records its dependencies, whatever becomes of it. -/
theorem BuildSetup.compileAndTrack_state (setup : BuildSetup) (text : String)
    (state : BuildState) : (setup.compileAndTrack text state).2 =
      ⟨(state.registry.mark state.host).1.addAll state.host.resource (setup.options.tracked text),
        { state.host with marked := true }⟩ := by
  rw [compileAndTrack, ← Registry.mark_host state.registry state.host]
  have resource : (state.registry.mark state.host).2.resource = state.host.resource := by
    rw [Registry.mark_host]
  cases compiled : compile text with
  | error failure =>
    have none : setup.options.tracked text = [] := by
      rw [Options.tracked, compiled]
      split <;> simp_all
    rw [none]
    rfl
  | ok nodes =>
    cases dev : setup.options.dev with
    | false => simp [track, Options.tracked, compiled, dev, Registry.addAll]
    | true => simp [track, Options.tracked, compiled, dev, resource]

theorem BuildSetup.load_state (setup : BuildSetup) (text : String) (state : BuildState) :
    (setup.load text state).2 = (setup.compileAndTrack text state).2 := by
  rw [load]
  split <;> rename_i h <;> rw [h]

theorem BuildSetup.loadWithCallback_state (setup : BuildSetup) (text : String)
    (state : BuildState) :
    (setup.loadWithCallback text state).2 = (setup.compileAndTrack text state).2 := by
  rw [loadWithCallback]
  split <;> rename_i h <;> rw [h]

namespace Session

/-- The session after a step has worked through the host of a handle. -/
def worked (s : Session) (step : SessionStep) (handle : Nat) (host : Host)
    (templates : List (List Node)) : Session :=
  { s with
    registry := (if step.asks then (s.registry.mark host).1 else s.registry).addAll
      host.resource (step.records s.options)
    hosts := s.hosts.set handle { host with marked := host.marked || step.asks }
    templates }

/-- What a step does to a session: it begins a build, works through a host, or leaves the registry
and the hosts as they are. -/
inductive Moves (s : Session) (step : SessionStep) : Session → Prop
  | begins (resource : String) (begun : step.begins? = some resource)
      (unhandled : step.handle? = none) :
      Moves s step
        { s with
          registry := (s.registry.begin resource).1
          hosts := s.hosts ++ [⟨resource, false⟩] }
  | through (handle : Nat) (host : Host) (templates : List (List Node))
      (begun : step.begins? = none) (handled : step.handle? = some handle)
      (found : s.hosts[handle]? = some host) :
      Moves s step (s.worked step handle host templates)
  | idle (library : Library) (begun : step.begins? = none)
      (unhandled : ∀ handle, step.handle? = some handle → s.hosts[handle]? = none) :
      Moves s step { s with library }

theorem moves_of_handle {s next : Session} {step : SessionStep} {handle : Nat}
    (begun : step.begins? = none) (handled : step.handle? = some handle)
    (absent : s.hosts[handle]? = none → next = s)
    (present : ∀ host, s.hosts[handle]? = some host →
      ∃ templates, next = s.worked step handle host templates) :
    s.Moves step next := by
  cases found : s.hosts[handle]? with
  | none =>
    rw [absent found]
    refine .idle s.library begun fun other h => ?_
    rw [handled] at h
    cases h
    exact found
  | some host =>
    rcases present host found with ⟨templates, rfl⟩
    exact .through handle host templates begun handled found

theorem moves_of_no_handle {s : Session} {step : SessionStep} (library : Library)
    (begun : step.begins? = none) (unhandled : step.handle? = none) :
    s.Moves step { s with library } := by
  refine .idle library begun fun handle h => ?_
  rw [unhandled] at h
  cases h

theorem step_moves (s : Session) (step : SessionStep) : s.Moves step (s.step step).2 := by
  have built : ∀ host : Host, ∀ text, (s.setup.compileAndTrack text ⟨s.registry, host⟩).2 =
      ⟨(s.registry.mark host).1.addAll host.resource (s.options.tracked text),
        { host with marked := host.marked || true }⟩ := fun host text => by
    rw [BuildSetup.compileAndTrack_state, Bool.or_true]
    rfl
  cases step with
  | begin resource => exact .begins resource rfl rfl
  | add handle path =>
    refine moves_of_handle rfl rfl (fun h => ?_) fun host h => ?_
    · simp only [Session.step, onHost, h]
    · simp only [Session.step, onHost, h, worked, SessionStep.asks, Bool.or_false]
      exact ⟨_, rfl⟩
  | mark handle =>
    refine moves_of_handle rfl rfl (fun h => ?_) fun host h => ?_
    · simp only [Session.step, onHost, h]
    · simp only [Session.step, onHost, h, worked, SessionStep.asks, Bool.or_true,
        Registry.mark_host]
      exact ⟨_, rfl⟩
  | load handle text =>
    refine moves_of_handle rfl rfl (fun h => ?_) fun host h => ?_
    · simp only [Session.step, onHost, h]
    · simp only [Session.step, onHost, h, BuildSetup.load_state, built]
      exact ⟨_, rfl⟩
  | loadWithCallback handle text =>
    refine moves_of_handle rfl rfl (fun h => ?_) fun host h => ?_
    · simp only [Session.step, onHost, h]
    · simp only [Session.step, onHost, h, BuildSetup.loadWithCallback_state, built]
      exact ⟨_, rfl⟩
  | compile handle text =>
    refine moves_of_handle rfl rfl (fun h => ?_) fun host h => ?_
    · simp only [Session.step, onHost, h]
    · cases compiled : (s.setup.compileAndTrack text ⟨s.registry, host⟩).1 <;>
        simp only [Session.step, onHost, h, built, compiled] <;>
        exact ⟨_, rfl⟩
  | dependencies resource => exact moves_of_no_handle s.library rfl rfl
  | isCacheable resource => exact moves_of_no_handle s.library rfl rfl
  | dependents path => exact moves_of_no_handle s.library rfl rfl
  | insertFile path content => exact moves_of_no_handle _ rfl rfl
  | countFiles => exact moves_of_no_handle s.library rfl rfl
  | render template data =>
    have same : (s.step (.render template data)).2 = s := by
      rw [step]
      split <;> rfl
    rw [same]
    exact moves_of_no_handle s.library rfl rfl

/-! ### What steps leave behind -/

/-- The registry and the hosts are those that the steps make. -/
structure Follows (s : Session) (options : Options) (steps : List SessionStep) : Prop where
  same : s.options = options
  resources : s.hosts.map Host.resource = handles steps
  marked : ∀ handle host, s.hosts[handle]? = some host → (host.marked = true ↔ Asked steps handle)
  dependencies : ∀ resource,
    s.registry.dependencies resource = recorded options resource steps
  cacheable : ∀ resource, s.registry.isCacheable resource = true ↔ Marked resource steps

section Following

variable {options : Options} {steps : List SessionStep} {s : Session} {step : SessionStep}
  {handle : Nat} {host : Host}

theorem follows_start (options : Options) (library : Library) :
    (Session.start options library).Follows options [] where
  same := rfl
  resources := rfl
  marked := fun _ _ found => nomatch found
  dependencies := fun _ => rfl
  cacheable := fun resource => by
    constructor
    · intro h
      cases h
    · rintro ⟨before, step, after, handle, split, -⟩
      simp at split

theorem Follows.resource_at (h : s.Follows options steps) (handle : Nat) :
    (handles steps)[handle]? = s.hosts[handle]?.map Host.resource := by
  rw [← h.resources, List.getElem?_map]

theorem Follows.asks_iff (h : s.Follows options steps) : Asks steps step handle ↔
    step.asks = true ∧ step.handle? = some handle ∧ ∃ host, s.hosts[handle]? = some host := by
  have given : handle < (handles steps).length ↔ ∃ host, s.hosts[handle]? = some host := by
    rw [← h.resources, List.length_map, ← Option.isSome_iff_exists]
    simp
  exact ⟨fun a => ⟨a.asks, a.through, given.mp a.given⟩, fun a => ⟨a.1, a.2.1, given.mpr a.2.2⟩⟩

/-- A beginning forgets what was recorded for its resource and gives out a new handle. -/
theorem Follows.begins (h : s.Follows options steps) {resource : String}
    (begun : step.begins? = some resource) (unhandled : step.handle? = none) :
    Follows
      { s with
        registry := (s.registry.begin resource).1
        hosts := s.hosts ++ [⟨resource, false⟩] } options (steps ++ [step]) := by
  have asks : ∀ i, ¬ Asks steps step i := fun i a => by
    rw [h.asks_iff, unhandled] at a
    exact nomatch a.2.1
  have its : step.resource? (handles steps) = none := by rw [SessionStep.resource?, unhandled]; rfl
  refine ⟨h.same, ?_, fun i host found => ?_, fun r => ?_, fun r => ?_⟩
  · rw [List.map_append, h.resources, handles_concat, begun]
    rfl
  · rw [asked_concat, or_iff_left (asks i)]
    rcases Nat.lt_or_ge i s.hosts.length with before | after
    · rw [List.getElem?_append_left before] at found
      exact h.marked i host found
    · -- Nothing can have asked through the handle that is given out only now.
      have new : ¬ Asked steps i := fun asked => by
        have given := asked.given
        rw [← h.resources, List.length_map] at given
        exact absurd given (Nat.not_lt.mpr after)
      rw [List.getElem?_append_right after] at found
      rw [List.mem_singleton.mp (List.mem_of_getElem? found)]
      exact iff_of_false Bool.false_ne_true new
  · rw [Registry.dependencies_begin, h.dependencies, recorded_concat, begun, its]
    simp
  · rw [Registry.isCacheable_begin, h.cacheable, marked_concat, begun]
    simp [asks]

/-- A step through a host records its paths for the resource of the host, and marks the resource if
it asks for that and the host has not asked before. -/
theorem Follows.through (h : s.Follows options steps) (templates : List (List Node))
    (begun : step.begins? = none) (handled : step.handle? = some handle)
    (found : s.hosts[handle]? = some host) :
    (s.worked step handle host templates).Follows options (steps ++ [step]) := by
  have asks : ∀ i, Asks steps step i ↔ step.asks = true ∧ i = handle := fun i => by
    rw [h.asks_iff, handled, Option.some_inj]
    exact ⟨fun a => ⟨a.1, a.2.1.symm⟩, fun a => ⟨a.1, a.2.symm, host, a.2 ▸ found⟩⟩
  have its : (handles steps)[handle]? = some host.resource := by rw [h.resource_at, found]; rfl
  have resource : step.resource? (handles steps) = some host.resource := by
    rw [SessionStep.resource?, handled]
    exact its
  have within : handle < s.hosts.length := (List.getElem?_eq_some_iff.mp found).1
  rw [worked]
  refine ⟨h.same, ?_, fun i other there => ?_, fun r => ?_, fun r => ?_⟩
  · rw [List.map_set, h.resources, handles_concat, begun, Option.toList_none, List.append_nil]
    rcases List.getElem?_eq_some_iff.mp its with ⟨_, at_handle⟩
    rw [← at_handle, List.set_getElem_self]
  · rw [asked_concat, asks]
    by_cases this : i = handle
    · subst this
      rw [List.getElem?_set_self within, Option.some_inj] at there
      rw [← there, Bool.or_eq_true, h.marked _ _ found, and_iff_left rfl]
    · rw [List.getElem?_set_ne (Ne.symm this)] at there
      rw [h.marked i other there, or_iff_left fun a => this a.2]
  · have unmarked : Registry.dependencies
        (if step.asks then (s.registry.mark host).1 else s.registry) r =
          s.registry.dependencies r := by
      split
      · exact Registry.dependencies_mark _ _ _
      · rfl
    rw [Registry.dependencies_addAll, unmarked, recorded_concat, begun, resource, h.dependencies,
      h.same]
    simp
  · have first : host.marked = false ↔ ¬ Asked steps handle := by
      rw [← h.marked handle host found, Bool.not_eq_true]
    have last : (∃ i, Asks steps step i ∧ ¬ Asked steps i ∧ (handles steps)[i]? = some r) ↔
        step.asks = true ∧ host.marked = false ∧ host.resource = r := by
      rw [first]
      constructor
      · rintro ⟨i, a, new, of⟩
        rcases (asks i).mp a with ⟨asking, rfl⟩
        exact ⟨asking, new, Option.some_inj.mp (its.symm.trans of)⟩
      · rintro ⟨asking, new, rfl⟩
        exact ⟨handle, (asks handle).mpr ⟨asking, rfl⟩, new, its⟩
    rw [Registry.isCacheable_addAll, marked_concat, last, begun, ← h.cacheable]
    cases step.asks <;> simp [Registry.isCacheable_mark]

theorem Follows.idle (h : s.Follows options steps) (library : Library)
    (begun : step.begins? = none)
    (unhandled : ∀ handle, step.handle? = some handle → s.hosts[handle]? = none) :
    Follows { s with library } options (steps ++ [step]) := by
  have asks : ∀ i, ¬ Asks steps step i := fun i a => by
    rw [h.asks_iff] at a
    rcases a with ⟨-, handled, host, found⟩
    rw [unhandled i handled] at found
    exact nomatch found
  have its : step.resource? (handles steps) = none := by
    cases handled : step.handle? with
    | none => rw [SessionStep.resource?, handled]; rfl
    | some i =>
      rw [SessionStep.resource?, handled, Option.bind_some, h.resource_at, unhandled i handled]
      rfl
  refine ⟨h.same, ?_, fun i host found => ?_, fun r => ?_, fun r => ?_⟩
  · rw [h.resources, handles_concat, begun, Option.toList_none, List.append_nil]
  · rw [asked_concat, or_iff_left (asks i)]
    exact h.marked i host found
  · rw [h.dependencies, recorded_concat, begun, its]
    simp
  · rw [h.cacheable, marked_concat, begun]
    simp [asks]

theorem Follows.next (h : s.Follows options steps) (step : SessionStep) :
    (s.step step).2.Follows options (steps ++ [step]) := by
  generalize made : (s.step step).2 = next
  cases made ▸ s.step_moves step with
  | begins resource begun unhandled => exact h.begins begun unhandled
  | through handle host templates begun handled found =>
    exact h.through templates begun handled found
  | idle library begun unhandled => exact h.idle library begun unhandled

end Following

/-! ### Whole sessions -/

def last (s : Session) (steps : List SessionStep) : Session :=
  ((s.run steps).getLast?.map Prod.snd).getD s

theorem last_cons (s : Session) (step : SessionStep) (rest : List SessionStep) :
    s.last (step :: rest) = (s.step step).2.last rest := by
  rw [last, last, run, List.getLast?_cons]
  cases ((s.step step).2.run rest).getLast? <;> rfl

theorem last_concat (s : Session) (steps : List SessionStep) (step : SessionStep) :
    s.last (steps ++ [step]) = ((s.last steps).step step).2 := by
  induction steps generalizing s with
  | nil => rfl
  | cons first rest ih => rw [List.cons_append, last_cons, last_cons, ih]

theorem follows_last (options : Options) (library : Library) (steps : List SessionStep) :
    ((Session.start options library).last steps).Follows options steps := by
  induction steps using List.reverseRecOn with
  | nil => exact follows_start options library
  | append_singleton steps step ih =>
    rw [last_concat]
    exact ih.next step

end Session

/-- After any steps of a session the dependencies of a resource are those recorded through its
handles since its last beginning, it is cacheable if one of these handles asked for the first time
since then, and the dependents of a path are the resources with a path to the same place among
their dependencies, in ascending order. A step changes nothing for a resource that it neither begins
nor works through a handle of. -/
theorem registry_history (options : Options) (library : Library) (steps : List SessionStep) :
    let registry := ((Session.start options library).last steps).registry
    (∀ resource, registry.dependencies resource = recorded options resource steps) ∧
    (∀ resource, registry.isCacheable resource = true ↔ Marked resource steps) ∧
    (∀ path, (registry.dependents path).Pairwise (· < ·) ∧
      ∀ resource, resource ∈ registry.dependents path ↔
        ∃ p ∈ recorded options resource steps, p.same path = true) ∧
    ∀ step resource, step.begins? ≠ some resource →
      step.resource? (handles steps) ≠ some resource →
      let next := ((Session.start options library).last (steps ++ [step])).registry
      next.dependencies resource = registry.dependencies resource ∧
        next.isCacheable resource = registry.isCacheable resource := by
  intro registry
  have h := Session.follows_last options library steps
  refine ⟨h.dependencies, h.cacheable, fun path => ⟨Registry.dependents_ascending _ path,
    fun resource => ?_⟩, fun step resource begun through => ?_⟩
  · rw [Registry.mem_dependents, h.dependencies]
  · have after := Session.follows_last options library (steps ++ [step])
    have unasked : ¬ ∃ handle, Asks steps step handle ∧ ¬ Asked steps handle ∧
        (handles steps)[handle]? = some resource := by
      rintro ⟨handle, asks, -, its⟩
      rw [SessionStep.resource?, asks.through, Option.bind_some] at through
      exact through its
    constructor
    · rw [after.dependencies, h.dependencies, recorded_concat, if_neg begun, if_neg through,
        List.append_nil]
    · rw [Bool.eq_iff_iff, after.cacheable, h.cacheable, marked_concat, or_iff_left unasked,
        and_iff_right begun]

/-- A handle from before a rebuild records for the current build, and a handle of another resource
does not. -/
theorem registry_history_of_stale_handle :
    let options : Options := { Options.usual with dev := true }
    let steps : List SessionStep := [
      .begin "page", .load 0 "\x7b% include \x27a\x27 %\x7d", .begin "page", .begin "post",
      .load 0 "\x7b% include \x27b\x27 %\x7d\x7b% include \x27b\x27 %\x7d",
      .compile 1 "\x7b% if %\x7d", .add 2 ⟨"./b.liquid"⟩, .add 2 ⟨"c//d"⟩]
    let s := (Session.start options .empty).last steps
    s.registry.dependencies "page" = [⟨"b.liquid"⟩, ⟨"b.liquid"⟩] ∧
      "post" ∈ s.registry.dependents ⟨"c/d/"⟩ ∧
      (SessionStep.load 2 "").resource? (handles steps) = some "post" ∧
      ((s.step (.load 2 "")).2.registry.isCacheable "page" = s.registry.isCacheable "page") := by
  intro options steps s
  obtain ⟨dependencies, -, dependents, others⟩ := registry_history options .empty steps
  have its : (SessionStep.load 2 "").resource? (handles steps) = some "post" := rfl
  refine ⟨(dependencies "page").trans (by decide +kernel),
    ((dependents ⟨"c/d/"⟩).2 "post").mpr ⟨⟨"c//d"⟩, by decide +kernel, by decide +kernel⟩, its, ?_⟩
  have unchanged := (others (.load 2 "") "page" nofun (by rw [its]; decide)).2
  rwa [Session.last_concat] at unchanged

end TemplateSite
