import TemplateSite.Proofs.Build.History
import TemplateSite.Proofs.Success

/-!
# Three ways to build

A template can be built all at once, with the result handed to a callback, or compiled first and
rendered later. All three leave the registry and the hosts in the same state, and what they answer
comes from one compilation and one rendering. The callback is called once, with what rendering
gives, unless the source does not compile or rendering breaks down; then it is not called at all.
-/
namespace TemplateSite

theorem Options.tracked_of_refused {options : Options} {text : String}
    {failure : Failure CompileFault} (refused : compile text = .error failure) :
    options.tracked text = [] := by
  rw [tracked, refused]
  split <;> simp_all

theorem Options.tracked_of_compiled {options : Options} {text : String} {nodes : List Node}
    (compiled : compile text = .ok nodes) :
    options.tracked text = if options.dev then dependencies options nodes else [] := by
  rw [tracked, compiled]
  cases options.dev <;> rfl

namespace BuildSetup

/-- Building in two phases: the first one compiles, and the tree that it gives is rendered against
the configured data. -/
def inPhases (setup : BuildSetup) (text : String) (state : BuildState) :
    Except (Failure CompileFault) (Outcome String) × BuildState :=
  match setup.compileAndTrack text state with
  | (.error failure, state) => (.error failure, state)
  | (.ok nodes, state) => (.ok (setup.render nodes setup.options.data), state)

/-- The report is one call with a result exactly when rendering ends with that result. -/
theorem CallbackReport.ofOutcome_eq_iff {outcome : Outcome String}
    {result : Except RenderFault String} :
    CallbackReport.ofOutcome outcome = ⟨.ok (), [result]⟩ ↔ outcome = result.mapError .fault := by
  rcases outcome with (fault | _) | s <;> rcases result with cause | t <;>
    simp [CallbackReport.ofOutcome, mapError_ok, mapError_error]

theorem CallbackReport.length_calls_ofOutcome {outcome : Outcome String} :
    (CallbackReport.ofOutcome outcome).calls.length = 1 ↔ outcome ≠ .error .breakdown := by
  rcases outcome with (fault | _) | s <;> simp [CallbackReport.ofOutcome]

theorem CallbackReport.ofOutcome_breakdown :
    CallbackReport.ofOutcome (.error .breakdown) = ⟨.error .breakdown, []⟩ := rfl

theorem compileAndTrack_result (setup : BuildSetup) (text : String) (state : BuildState) :
    (setup.compileAndTrack text state).1 = compile text := by
  rw [compileAndTrack]
  cases compile text <;> rfl

theorem load_result (setup : BuildSetup) (text : String) (state : BuildState) :
    (setup.load text state).1 =
      match compile text with
      | .error failure => .error (failure.map .compile)
      | .ok nodes => (setup.render nodes setup.options.data).mapError (Failure.map .render) := by
  rw [load, ← compileAndTrack_result setup text state]
  rcases setup.compileAndTrack text state with ⟨_ | _, _⟩ <;> rfl

/-- What building answers does not depend on what has been recorded. -/
theorem load_result_congr (setup : BuildSetup) (text : String) (state other : BuildState) :
    (setup.load text state).1 = (setup.load text other).1 := by
  rw [load_result, load_result]

theorem loadWithCallback_report (setup : BuildSetup) (text : String) (state : BuildState) :
    (setup.loadWithCallback text state).1 =
      match compile text with
      | .error failure => ⟨.error failure, []⟩
      | .ok nodes => .ofOutcome (setup.render nodes setup.options.data) := by
  rw [loadWithCallback, ← compileAndTrack_result setup text state]
  rcases setup.compileAndTrack text state with ⟨_ | _, _⟩ <;> rfl

/-- Building runs in two phases; the second one does not come to the registry. -/
theorem inPhases_state (setup : BuildSetup) (text : String) (state : BuildState) :
    (setup.inPhases text state).2 = (setup.compileAndTrack text state).2 := by
  rw [inPhases]
  split <;> rename_i h <;> rw [h]

theorem inPhases_result (setup : BuildSetup) (text : String) (state : BuildState) :
    (setup.inPhases text state).1 =
      match compile text with
      | .error failure => .error failure
      | .ok nodes => .ok (setup.render nodes setup.options.data) := by
  rw [inPhases, ← compileAndTrack_result setup text state]
  rcases setup.compileAndTrack text state with ⟨_ | _, _⟩ <;> rfl

theorem dependencies_load (setup : BuildSetup) (text : String) (state : BuildState)
    (resource : String) :
    (setup.load text state).2.registry.dependencies resource =
      state.registry.dependencies resource ++
        if state.host.resource = resource then setup.options.tracked text else [] := by
  rw [load_state, compileAndTrack_state, Registry.dependencies_addAll, Registry.dependencies_mark]

theorem isCacheable_load (setup : BuildSetup) (text : String) (state : BuildState)
    (resource : String) :
    (setup.load text state).2.registry.isCacheable resource = true ↔
      state.registry.isCacheable resource = true ∨
        state.host.marked = false ∧ state.host.resource = resource := by
  rw [load_state, compileAndTrack_state, Registry.isCacheable_addAll, Registry.isCacheable_mark]

end BuildSetup

/-- The three ways to build leave the same registry and the same host. If the source does not
compile, all refuse it alike, no callback is called and no dependencies are recorded. If it
compiles, one rendering answers all three: the callback is called once, with its result, unless it
breaks down; and the resource of the host has the dependencies of the tree recorded if they are
wanted, whatever rendering gives. -/
theorem builds_agree (setup : BuildSetup) (text : String) (state : BuildState) :
    let loaded := setup.load text state
    let called := setup.loadWithCallback text state
    let phased := setup.inPhases text state
    called.2 = loaded.2 ∧ phased.2 = loaded.2 ∧
    (∀ failure, compile text = .error failure →
      loaded.1 = .error (failure.map .compile) ∧
      called.1 = ⟨.error failure, []⟩ ∧
      phased.1 = .error failure ∧
      ∀ resource,
        loaded.2.registry.dependencies resource = state.registry.dependencies resource) ∧
    ∀ nodes, compile text = .ok nodes →
      let outcome := setup.render nodes setup.options.data
      loaded.1 = outcome.mapError (Failure.map .render) ∧
      phased.1 = .ok outcome ∧
      (∀ result, called.1 = ⟨.ok (), [result]⟩ ↔ outcome = result.mapError .fault) ∧
      (called.1.calls.length = 1 ↔ outcome ≠ .error .breakdown) ∧
      ∀ resource, loaded.2.registry.dependencies resource =
        state.registry.dependencies resource ++
          if setup.options.dev ∧ state.host.resource = resource then
            dependencies setup.options nodes
          else [] := by
  intro loaded called phased
  have load : loaded.1 = _ := setup.load_result text state
  have call : called.1 = _ := setup.loadWithCallback_report text state
  have phases : phased.1 = _ := setup.inPhases_result text state
  have recorded := setup.dependencies_load text state
  refine ⟨?_, ?_, ?_, ?_⟩
  · exact (setup.loadWithCallback_state text state).trans (setup.load_state text state).symm
  · exact (setup.inPhases_state text state).trans (setup.load_state text state).symm
  · intro failure refused
    rw [refused] at load call phases
    refine ⟨load, call, phases, fun resource => ?_⟩
    rw [recorded, Options.tracked_of_refused refused, ite_self, List.append_nil]
  · intro nodes compiled outcome
    rw [compiled] at load call phases
    refine ⟨load, phases, fun result => ?_, ?_, fun resource => ?_⟩
    · rw [call]
      exact BuildSetup.CallbackReport.ofOutcome_eq_iff
    · rw [call]
      exact BuildSetup.CallbackReport.length_calls_ofOutcome
    · rw [recorded, Options.tracked_of_compiled compiled]
      by_cases wanted : setup.options.dev <;> by_cases its : state.host.resource = resource <;>
        simp [wanted, its]

/-- A page whose partial is missing: all ways fail alike, the callback is called with the fault, and
the partial is recorded as a dependency. A page that does not compile records nothing. -/
theorem builds_agree_of_missing :
    let setup : BuildSetup := ⟨{ Options.usual with dev := true }, Library.empty.read⟩
    let state : BuildState := ⟨(Registry.empty.begin "page").1.add "page" ⟨"old"⟩, ⟨"page", true⟩⟩
    let text := "\x7b% include \x27a\x27 %\x7d"
    let cause : RenderFault := .unreadable ⟨"a.liquid"⟩ (.noTemplate ⟨"a.liquid"⟩)
    ((setup.load text state).1 = .error (.fault (.render cause)) ∧
      (setup.loadWithCallback text state).1 = ⟨.ok (), [.error cause]⟩ ∧
      (setup.load text state).2.registry.dependencies "page" = [⟨"old"⟩, ⟨"a.liquid"⟩]) ∧
    (setup.loadWithCallback "\x7b% if" state).1.calls = [] ∧
      (setup.load "\x7b% if" state).2.registry.dependencies "page" = [⟨"old"⟩] := by
  intro setup state text cause
  have evaluated : (compile text).toOption.any fun nodes =>
      decide (setup.render nodes setup.options.data = .error (.fault cause)) &&
        decide (dependencies setup.options nodes = [⟨"a.liquid"⟩]) := by
    decide +kernel
  obtain ⟨nodes, compiled, fails⟩ := exists_eq_ok_of_any evaluated
  obtain ⟨fault, depends⟩ := (Bool.and_eq_true _ _).mp fails
  obtain ⟨-, -, -, works⟩ := builds_agree setup text state
  obtain ⟨loaded, -, called, -, recorded⟩ := works nodes compiled
  rw [of_decide_eq_true fault] at loaded called
  have untaken : (compile "\x7b% if").toOption.isNone := by decide +kernel
  obtain ⟨failure, refusal⟩ := exists_eq_error_of_isNone untaken
  obtain ⟨-, -, refused, -⟩ := builds_agree setup "\x7b% if" state
  obtain ⟨-, uncalled, -, unrecorded⟩ := refused failure refusal
  refine ⟨⟨loaded, (called (.error cause)).mpr rfl, (recorded "page").trans ?_⟩, ?_, ?_⟩
  · rw [of_decide_eq_true depends]
    decide +kernel
  · rw [uncalled]
  · exact (unrecorded "page").trans (by decide +kernel)

/-- A pattern that is accepted and cannot be written breaks the rendering down, and the callback is
not called although the source compiles. -/
theorem builds_agree_breaks_down :
    let setup : BuildSetup := ⟨.usual, Library.empty.read⟩
    let state : BuildState := ⟨(Registry.empty.begin "page").1, ⟨"page", false⟩⟩
    let text := "\x7b\x7b 0 | date: \x27%#z\x27 \x7d\x7d"
    (∃ nodes, compile text = .ok nodes) ∧ (setup.loadWithCallback text state).1.calls = [] := by
  intro setup state text
  have broken : (compile text).toOption.any fun nodes =>
      decide (setup.render nodes setup.options.data = .error .breakdown) := by
    decide +kernel
  obtain ⟨nodes, compiled, breaks⟩ := exists_eq_ok_of_any broken
  refine ⟨⟨nodes, compiled⟩, ?_⟩
  have report := setup.loadWithCallback_report text state
  rw [compiled] at report
  dsimp only at report
  rw [report, of_decide_eq_true breaks, BuildSetup.CallbackReport.ofOutcome_breakdown]

end TemplateSite
