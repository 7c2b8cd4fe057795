import TemplateSite.Build.Load

/-!
# Sessions

A session runs builds one after the other on one registry. It keeps the hosts it began builds with
and the templates it compiled, and files in memory can be added while it goes on.
-/
namespace TemplateSite

/-- A step of a session. Hosts and templates are named by the order in which they were made. -/
inductive SessionStep where
  | begin (resource : String)
  | add (host : Nat) (path : Path)
  | mark (host : Nat)
  | dependencies (resource : String)
  | isCacheable (resource : String)
  | dependents (path : Path)
  | insertFile (path : Path) (content : String)
  | countFiles
  | load (host : Nat) (text : String)
  | loadWithCallback (host : Nat) (text : String)
  | compile (host : Nat) (text : String)
  /-- Renders a template against the given data, or else the configured data. -/
  | render (template : Nat) (data : Option Value)

inductive SessionAnswer where
  | begun (host : Nat) (resource : String)
  | done
  | paths (paths : List Path)
  | truth (b : Bool)
  | resources (names : List String)
  | count (n : Nat)
  | loaded (result : Except (Failure LoadFault) String)
  | reported (report : BuildSetup.CallbackReport)
  | compiled (template : Except (Failure CompileFault) Nat)
  | rendered (result : Outcome String)
  /-- The step names no host or template. -/
  | unknown

structure Session where
  options : Options
  library : Library
  registry : Registry
  hosts : List Host
  templates : List (List Node)

namespace Session

def start (options : Options) (library : Library) : Session :=
  ⟨options, library, .empty, [], []⟩

def setup (s : Session) : BuildSetup :=
  ⟨s.options, s.library.read⟩

def onHost {α : Type} (s : Session) (host : Nat) (run : BuildState → α × BuildState) :
    Option (α × Session) :=
  match s.hosts[host]? with
  | none => none
  | some h =>
    let (answer, state) := run ⟨s.registry, h⟩
    some (answer, { s with registry := state.registry, hosts := s.hosts.set host state.host })

def step (s : Session) : SessionStep → SessionAnswer × Session
  | .begin resource =>
    let (registry, host) := s.registry.begin resource
    (.begun s.hosts.length resource, { s with registry, hosts := s.hosts ++ [host] })
  | .add host path =>
    match s.onHost host fun state =>
        ((), { state with registry := state.registry.add state.host.resource path }) with
    | none => (.unknown, s)
    | some (_, s) => (.done, s)
  | .mark host =>
    match s.onHost host fun state =>
        let (registry, h) := state.registry.mark state.host
        ((), ⟨registry, h⟩) with
    | none => (.unknown, s)
    | some (_, s) => (.done, s)
  | .dependencies resource => (.paths (s.registry.dependencies resource), s)
  | .isCacheable resource => (.truth (s.registry.isCacheable resource), s)
  | .dependents path => (.resources (s.registry.dependents path), s)
  | .insertFile path content =>
    let library := s.library.insert path content
    (.count library.size, { s with library })
  | .countFiles => (.count s.library.size, s)
  | .load host text =>
    match s.onHost host (s.setup.load text) with
    | none => (.unknown, s)
    | some (result, s) => (.loaded result, s)
  | .loadWithCallback host text =>
    match s.onHost host (s.setup.loadWithCallback text) with
    | none => (.unknown, s)
    | some (report, s) => (.reported report, s)
  | .compile host text =>
    match s.onHost host (s.setup.compileAndTrack text) with
    | none => (.unknown, s)
    | some (.error failure, s) => (.compiled (.error failure), s)
    | some (.ok nodes, s) =>
      (.compiled (.ok s.templates.length), { s with templates := s.templates ++ [nodes] })
  | .render template data =>
    match s.templates[template]? with
    | none => (.unknown, s)
    | some nodes => (.rendered (s.setup.render nodes (data.getD s.options.data)), s)

/-- Makes steps in order, and pairs every answer with the session after the step. -/
def run (s : Session) : List SessionStep → List (SessionAnswer × Session)
  | [] => []
  | step :: rest =>
    let (answer, s) := s.step step
    (answer, s) :: s.run rest

end Session
end TemplateSite
