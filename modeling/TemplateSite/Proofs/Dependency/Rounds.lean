import TemplateSite.Build.Load
import TemplateSite.Proofs.Dependency.Registry
import TemplateSite.Proofs.Dependency.Walk

/-!
# The rounds of the walk

The walk is a loop over a stack of siblings that are partly visited. It hands each path to a report
as soon as it comes to the node that names the file, and it needs one round for each node and one to
leave each list of siblings. What has been reported in the end is the one sequence that the trees
give by recursion, whatever they look like and whatever is done with a report.
-/
namespace TemplateSite

variable {σ : Type}

/-- A walk between two rounds: the siblings that are still to be visited, the innermost first, and
what the reports have made so far. -/
structure Walking (σ : Type) where
  stack : List (List Node)
  made : σ

mutual

def Node.rounds : Node → Nat
  | .mk _ _ _ children => roundsOf children + 1

/-- The rounds that the nodes inside a node take, and the one to leave them. -/
def Node.roundsOf : Option (List Node) → Nat
  | none => 0
  | some nodes => roundsAll nodes + 1

def Node.roundsAll : List Node → Nat
  | [] => 0
  | node :: rest => node.rounds + roundsAll rest

end

namespace Walking

/-- A round of the walk. Siblings that are all visited are left; otherwise the next one is visited:
its path is reported if it names a file, and the nodes inside it are put on top if it has any. There
is no round after the last siblings are left. -/
def round (options : Options) (report : σ → Path → σ) : Walking σ → Option (Walking σ)
  | ⟨[], _⟩ => none
  | ⟨[] :: stack, made⟩ => some ⟨stack, made⟩
  | ⟨(.mk _ _ file children :: siblings) :: stack, made⟩ =>
    some ⟨pushChildren children (siblings :: stack), (options.pathsOf file).foldl report made⟩

def after (options : Options) (report : σ → Path → σ) : Nat → Walking σ → Option (Walking σ)
  | 0, w => some w
  | n + 1, w => (w.round options report).bind (after options report n)

def left (w : Walking σ) : Nat :=
  w.stack.foldr (fun nodes n => Node.roundsAll nodes + 1 + n) 0

/-- What the reports will have made in the end. -/
def outcome (options : Options) (report : σ → Path → σ) (w : Walking σ) : σ :=
  (w.stack.flatMap (Node.referencesAll options)).foldl report w.made

variable {options : Options} {report : σ → Path → σ}

/-- While siblings are left there is another round. It is one of those that were left, and what will
have been made stays the same. -/
theorem exists_round {nodes : List Node} {stack : List (List Node)} (made : σ) :
    ∃ next : Walking σ, (Walking.mk (nodes :: stack) made).round options report = some next ∧
      (Walking.mk (nodes :: stack) made).left = next.left + 1 ∧
      next.outcome options report = (Walking.mk (nodes :: stack) made).outcome options report := by
  cases nodes with
  | nil =>
    refine ⟨_, rfl, ?_, rfl⟩
    simp only [left, List.foldr_cons, Node.roundsAll]
    omega
  | cons node siblings =>
    rcases node with ⟨kind, line, file, children⟩
    refine ⟨_, rfl, ?_, ?_⟩
    · cases children with
      | none =>
        simp only [left, pushChildren, List.foldr_cons, Node.roundsAll, Node.rounds, Node.roundsOf]
        omega
      | some inside =>
        simp only [left, pushChildren, List.foldr_cons, Node.roundsAll, Node.rounds, Node.roundsOf]
        omega
    · cases children with
      | none =>
        simp only [outcome, pushChildren, List.flatMap_cons, Node.referencesAll, Node.references,
          Node.referencesOf, List.append_nil, List.append_assoc, List.foldl_append]
      | some inside =>
        simp only [outcome, pushChildren, List.flatMap_cons, Node.referencesAll, Node.references,
          Node.referencesOf, List.append_assoc, List.foldl_append]

theorem after_left (w : Walking σ) :
    after options report w.left w = some ⟨[], w.outcome options report⟩ := by
  generalize rounds : w.left = n
  induction n generalizing w with
  | zero =>
    rcases w with ⟨_ | ⟨nodes, stack⟩, made⟩
    · rfl
    · simp only [left, List.foldr_cons] at rounds
      omega
  | succ n ih =>
    rcases w with ⟨_ | ⟨nodes, stack⟩, made⟩
    · cases rounds
    · obtain ⟨next, round, fewer, same⟩ :=
        @exists_round σ options report nodes stack made
      rw [after, round, Option.bind_some, ih next (by omega), same]

end Walking

/-- Reports that are counted and recorded make the number of the paths and the registry with all of
them. -/
theorem foldl_record (resource : String) (paths : List Path) (n : Nat) (registry : Registry) :
    paths.foldl (fun made path => (made.1 + 1, made.2.add resource path)) (n, registry) =
      (n + paths.length, registry.addAll resource paths) := by
  induction paths generalizing n registry with
  | nil => rfl
  | cons path paths ih =>
    rw [List.foldl_cons, ih, List.length_cons, Nat.add_right_comm, Nat.add_assoc]
    rfl

/-- Recording takes place only where dependencies are wanted. -/
theorem track_of_dev (options : Options) (source : Source) (nodes : List Node)
    (state : BuildState) :
    (BuildSetup.mk { options with dev := true } source).track nodes state =
        ((Node.referencesAll options nodes).length,
          { state with
            registry := state.registry.addAll state.host.resource
              (Node.referencesAll options nodes) }) ∧
      (BuildSetup.mk { options with dev := false } source).track nodes state = (0, state) := by
  -- Where a reference leads does not depend on whether dependencies are wanted.
  have found : dependencies { options with dev := true } nodes =
      Node.referencesAll options nodes := by
    rw [dependencies_eq_referencesAll, Node.referencesAll_eq_gatherAll,
      Node.referencesAll_eq_gatherAll]
    rfl
  constructor
  · rw [← found]
    rfl
  · rfl

/-- The walk over any trees ends, and what it reports is the one sequence that the trees give: every
node that names a file, with the path of the reference, before the nodes inside it and these before
the next sibling, and repetitions as often as they occur. It does not matter what is done with a
report. So these are the dependencies of the trees; and where dependencies are wanted, tracking
records exactly them for the resource of the host, one by one as the walk comes to them, and tells
how many they are. Where they are not wanted, nothing is recorded. -/
theorem walk_reports (options : Options) (nodes : List Node) :
    ∃ paths, (∀ other, Node.ReportsAll options nodes other ↔ other = paths) ∧
      (∀ (σ : Type) (report : σ → Path → σ) (made : σ),
        Walking.after options report (Node.roundsAll nodes + 1) ⟨[nodes], made⟩ =
          some ⟨[], paths.foldl report made⟩) ∧
      dependencies options nodes = paths ∧
      ∀ (source : Source) (state : BuildState),
        let tracked := (BuildSetup.mk { options with dev := true } source).track nodes state
        tracked.1 = paths.length ∧
        tracked.2.host = state.host ∧
        (∀ resource, tracked.2.registry.dependencies resource =
            state.registry.dependencies resource ++
              (if state.host.resource = resource then paths else []) ∧
          tracked.2.registry.isCacheable resource = state.registry.isCacheable resource) ∧
        Walking.after options (fun made path => (made.1 + 1, made.2.add state.host.resource path))
            (Node.roundsAll nodes + 1) ⟨[nodes], (0, state.registry)⟩ =
          some ⟨[], (tracked.1, tracked.2.registry)⟩ ∧
        (BuildSetup.mk { options with dev := false } source).track nodes state = (0, state) := by
  have ends : ∀ (σ : Type) (report : σ → Path → σ) (made : σ),
      Walking.after options report (Node.roundsAll nodes + 1) ⟨[nodes], made⟩ =
        some ⟨[], (Node.referencesAll options nodes).foldl report made⟩ := by
    intro σ report made
    have h := @Walking.after_left σ options report ⟨[nodes], made⟩
    simpa only [Walking.left, Walking.outcome, List.foldr_cons, List.foldr_nil, Nat.add_zero,
      List.flatMap_cons, List.flatMap_nil, List.append_nil] using h
  refine ⟨Node.referencesAll options nodes, fun _ => Node.reportsAll_iff, ends,
    dependencies_eq_referencesAll options nodes, ?_⟩
  intro source state tracked
  have recorded := track_of_dev options source nodes state
  have made : tracked = _ := recorded.1
  rw [made]
  refine ⟨rfl, rfl, fun resource => ⟨?_, ?_⟩, ?_, recorded.2⟩
  · exact Registry.dependencies_addAll _ _ _ _
  · exact Registry.isCacheable_addAll _ _ _ _
  · rw [ends, foldl_record, Nat.zero_add]

/-- A layout whose file is named between two different marks, around an include and a block with an
include in it. The first include comes back after the layout, and inside it is a reference with two
marks at either end, of which it loses one. -/
theorem walk_reports_of_nested :
    let options : Options := { Options.usual with root := "/r/", extname := ".tpl" }
    let nodes : List Node :=
      [.mk .layout 1 (some "'parent\x22")
        (some [.mk (.include []) 1 (some "\x22child\x22") none,
          .mk (.block "b") 2 none (some [.mk (.include []) 2 (some "deep") none])]),
        .mk (.text "t") 3 none none,
        .mk (.include []) 4 (some "'child'") (some [.mk (.include []) 4 (some "''x''") none])]
    let paths : List Path :=
      [⟨"/r/parent.tpl"⟩, ⟨"/r/child.tpl"⟩, ⟨"/r/deep.tpl"⟩, ⟨"/r/child.tpl"⟩, ⟨"/r/'x'.tpl"⟩]
    let state : BuildState := ⟨Registry.empty.add "page" ⟨"old"⟩, ⟨"page", false⟩⟩
    let setup : BuildSetup := ⟨{ options with dev := true }, fun _ => .error .notFound⟩
    let tracked := setup.track nodes state
    Node.ReportsAll options nodes paths ∧ dependencies options nodes = paths ∧
      Walking.after options (fun made path => made ++ [path]) 11 ⟨[nodes], []⟩ = some ⟨[], paths⟩ ∧
      tracked.1 = 5 ∧ tracked.2.registry.dependencies "page" = ⟨"old"⟩ :: paths := by
  intro options nodes paths state setup tracked
  rcases walk_reports options nodes with ⟨found, reports, ends, listed, tracks⟩
  have here : dependencies options nodes = paths := by
    rw [dependencies_eq_referencesAll]
    decide +kernel
  obtain rfl : found = paths := listed.symm.trans here
  have recorded := (tracks (fun _ => .error .notFound) state).2.2.1 "page"
  refine ⟨(reports paths).mpr rfl, here, ?_, ?_, recorded.1⟩
  · exact ends (List Path) (fun made path => made ++ [path]) []
  · exact (tracks (fun _ => .error .notFound) state).1

end TemplateSite
