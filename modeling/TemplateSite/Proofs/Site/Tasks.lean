import Mathlib.Logic.Relation
import TemplateSite.Proofs.Build.Callback
import TemplateSite.Proofs.Files.Naming
import TemplateSite.Site.Pages

/-!
# The tasks of a site

A site is built by one task for each page. The tasks are begun in the order of the pages and work
side by side on one registry, one access at a time and in any order; the pages are put in the order
of their paths when all tasks have ended. Whatever the order, each task finds and leaves what is
recorded for its own resource as if it were alone, and the outcome is that of building the pages one
after the other.
-/
namespace TemplateSite

/-! ### Accesses to the registry -/

/-- What a build does to the registry in one go. -/
inductive Access where
  | mark
  | record (path : Path)

namespace Access

def run (access : Access) (state : BuildState) : BuildState :=
  match access with
  | .mark => ⟨(state.registry.mark state.host).1, (state.registry.mark state.host).2⟩
  | .record path => { state with registry := state.registry.add state.host.resource path }

def runAll (accesses : List Access) (state : BuildState) : BuildState :=
  accesses.foldl (fun state access => access.run state) state

/-- The accesses of a build that reads a text. -/
def ofText (options : Options) (text : String) : List Access :=
  .mark :: (options.tracked text).map .record

variable {access : Access} {state other : BuildState} {resource : String}

theorem runAll_records (paths : List Path) (state : BuildState) :
    runAll (paths.map .record) state =
      { state with registry := state.registry.addAll state.host.resource paths } := by
  induction paths generalizing state with
  | nil => rfl
  | cons path paths ih =>
    change runAll (paths.map .record) (run (.record path) state) = _
    rw [ih]
    rfl

/-- A build leaves the state to which its accesses lead. -/
theorem runAll_ofText (setup : BuildSetup) (text : String) (state : BuildState) :
    runAll (ofText setup.options text) state = (setup.load text state).2 := by
  rw [BuildSetup.load_state, BuildSetup.compileAndTrack_state]
  change runAll ((setup.options.tracked text).map .record) (run .mark state) = _
  rw [runAll_records, run, Registry.mark_host]

theorem run_resource (access : Access) (state : BuildState) :
    (access.run state).host.resource = state.host.resource := by
  cases access with
  | mark => rw [run, Registry.mark_host]
  | record path => rfl

theorem entry_run_of_ne (h : state.host.resource ≠ resource) :
    (access.run state).registry.entry resource = state.registry.entry resource := by
  cases access with
  | mark =>
    rw [run, Registry.entry_mark, if_neg fun its => h its.2]
  | record path =>
    rw [run, Registry.entry_add, if_neg h]

end Access

/-- A host and what is recorded for its resource are the same in two states. -/
structure BuildState.Alike (state other : BuildState) : Prop where
  host : state.host = other.host
  entry : state.registry.entry state.host.resource = other.registry.entry state.host.resource

/-- What an access does depends only on the host and on what is recorded for its resource. -/
theorem BuildState.Alike.run {state other : BuildState} (h : state.Alike other) (access : Access) :
    (access.run state).Alike (access.run other) := by
  rcases state with ⟨registry, host⟩
  rcases other with ⟨registry', host'⟩
  obtain rfl : host = host' := h.host
  have entry : registry.entry host.resource = registry'.entry host.resource := h.entry
  cases access with
  | mark =>
    refine ⟨by rw [Access.run, Access.run, Registry.mark_host, Registry.mark_host], ?_⟩
    rw [Access.run_resource, Access.run, Access.run, Registry.entry_mark, Registry.entry_mark,
      entry]
  | record path =>
    refine ⟨rfl, ?_⟩
    rw [Access.run_resource, Access.run, Access.run, Registry.entry_add, Registry.entry_add, entry]

/-! ### Tasks -/

/-- The task of a page: its host, what it still does to the registry, and the page that it ends
with; it ends without one if it breaks down. -/
structure Task where
  path : Path
  host : Host
  accesses : List Access
  ending : Option Page

namespace Task

/-- The page that a build comes to, if it does not break down. -/
def pageOf (path : Path) : Except (Failure LoadFault) String → Option Page
  | .ok s => some ⟨path, .ok s⟩
  | .error (.fault fault) => some ⟨path, .error (.load fault)⟩
  | .error .breakdown => none

/-- The state in which a page finds the registry when it is the only one. -/
def alone (path : Path) : BuildState :=
  ⟨(Registry.empty.begin path.text).1, (Registry.empty.begin path.text).2⟩

/-- The task of a page at its start. A page that cannot be read does nothing to the registry. What a
build answers does not depend on what has been recorded, so it is known from the start. -/
def start (options : Options) (partials : Source) (tree : FileTree) (path : Path) : Task :=
  match tree.read path with
  | .error _ => ⟨path, ⟨path.text, false⟩, [], some ⟨path, .error (.unreadable path)⟩⟩
  | .ok text =>
    ⟨path, ⟨path.text, false⟩, Access.ofText options text,
      pageOf path ((BuildSetup.mk options partials).load text (alone path)).1⟩

variable {options : Options} {partials : Source} {tree : FileTree} {path : Path}

theorem start_path : (start options partials tree path).path = path := by
  rw [start]
  split <;> rfl

theorem start_host : (start options partials tree path).host = ⟨path.text, false⟩ := by
  rw [start]
  split <;> rfl

theorem path_of_ending {page : Page} (h : (start options partials tree path).ending = some page) :
    page.path = path := by
  rw [start] at h
  split at h
  · cases h
    rfl
  · dsimp only [pageOf] at h
    split at h <;> cases h <;> rfl

/-- The state that a page leaves if it is built on a registry without others at work. -/
def after (task : Task) (registry : Registry) : BuildState :=
  Access.runAll task.accesses
    ⟨(registry.begin task.path.text).1, (registry.begin task.path.text).2⟩

theorem after_of_unreadable {fault : ReadFault} (unread : tree.read path = .error fault)
    (registry : Registry) :
    (start options partials tree path).after registry =
      ⟨(registry.begin path.text).1, (registry.begin path.text).2⟩ := by
  rw [after, start, unread]
  rfl

theorem after_of_read {text : String} (found : tree.read path = .ok text) (registry : Registry) :
    (start options partials tree path).after registry =
      ((BuildSetup.mk options partials).load text
        ⟨(registry.begin path.text).1, (registry.begin path.text).2⟩).2 := by
  rw [after, start, found]
  exact Access.runAll_ofText ⟨options, partials⟩ text _

/-- Building a page is running its task to the end. -/
theorem buildPage_eq (registry : Registry) :
    Site.buildPage options partials tree registry path =
      (start options partials tree path).ending.map fun page =>
        (page, ((start options partials tree path).after registry).registry) := by
  rw [Site.buildPage]
  cases found : tree.read path with
  | error fault =>
    rw [after_of_unreadable found, start, found]
    rfl
  | ok text =>
    rw [after_of_read found, start, found]
    dsimp only
    rw [BuildSetup.load_result_congr _ text (alone path)
      ⟨(registry.begin path.text).1, (registry.begin path.text).2⟩]
    rcases (BuildSetup.mk options partials).load text
      ⟨(registry.begin path.text).1, (registry.begin path.text).2⟩ with ⟨(fault | _) | s, state⟩ <;>
      rfl

end Task
end TemplateSite
