import TemplateSite.Dependency.Registry
import TemplateSite.Dependency.Walk
import TemplateSite.Render.Engine

/-!
# Building one template

A build marks its resource as cacheable, compiles the source, records the dependencies of the tree
if they are wanted, and only then renders. There are three ways to run it: all at once, with the
result handed to a callback, or in two phases.
-/
namespace TemplateSite

/-- What a build works with: the options and the place that partials are read from. -/
structure BuildSetup where
  options : Options
  source : Source

/-- What a build changes. -/
structure BuildState where
  registry : Registry
  host : Host

/-- Why a build has no output. -/
inductive LoadFault where
  | compile (fault : CompileFault)
  | render (fault : RenderFault)
deriving DecidableEq

def LoadFault.message : LoadFault → String
  | .compile fault => fault.message
  | .render fault => fault.message

namespace BuildSetup

def render (setup : BuildSetup) (nodes : List Node) (data : Value) : Outcome String :=
  renderTemplate setup.options setup.source nodes data

/-- Records the dependencies of a tree, if they are wanted, and tells how many there were. -/
def track (setup : BuildSetup) (nodes : List Node) (state : BuildState) : Nat × BuildState :=
  if setup.options.dev then
    let paths := dependencies setup.options nodes
    (paths.length, { state with registry := state.registry.addAll state.host.resource paths })
  else (0, state)

/-- The first phase: marks, compiles and records. -/
def compileAndTrack (setup : BuildSetup) (text : String) (state : BuildState) :
    Except (Failure CompileFault) (List Node) × BuildState :=
  let (registry, host) := state.registry.mark state.host
  let state := ⟨registry, host⟩
  match compile text with
  | .error failure => (.error failure, state)
  | .ok nodes => (.ok nodes, (setup.track nodes state).2)

/-- Runs a build: both phases, against the configured data. -/
def load (setup : BuildSetup) (text : String) (state : BuildState) :
    Except (Failure LoadFault) String × BuildState :=
  match setup.compileAndTrack text state with
  | (.error failure, state) => (.error (failure.map .compile), state)
  | (.ok nodes, state) =>
    ((setup.render nodes setup.options.data).mapError (Failure.map .render), state)

/-- What a build with a callback does: what it returns, and the results that the callback is called
with. -/
structure CallbackReport where
  returned : Except (Failure CompileFault) Unit
  calls : List (Except RenderFault String)

def CallbackReport.ofOutcome : Outcome String → CallbackReport
  | .ok s => ⟨.ok (), [.ok s]⟩
  | .error (.fault fault) => ⟨.ok (), [.error fault]⟩
  | .error .breakdown => ⟨.error .breakdown, []⟩

def loadWithCallback (setup : BuildSetup) (text : String) (state : BuildState) :
    CallbackReport × BuildState :=
  match setup.compileAndTrack text state with
  | (.error failure, state) => (⟨.error failure, []⟩, state)
  | (.ok nodes, state) => (.ofOutcome (setup.render nodes setup.options.data), state)

end BuildSetup
end TemplateSite
