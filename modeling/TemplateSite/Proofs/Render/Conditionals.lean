import Mathlib.Tactic.Choose
import TemplateSite.Proofs.Render.Lines
import TemplateSite.Proofs.Template.Standalone

/-!
# Conditionals of any length

A conditional with any number of arms is rendered as conditionals with one arm each, nested in each
other's last bodies. Only the first arm of a conditional is ever negated, and a negated condition
swaps the two bodies. The conditions after the first one that is met are not looked at.
-/
namespace TemplateSite
open Builder

/-- A condition and the body that is rendered where it is met, as they are written. -/
structure Arm where
  condition : List Char
  body : List Char

/-- The condition can be read, and the body stands alone. -/
def Arm.WellFormed (arm : Arm) : Prop :=
  (∃ test, Expr.parseCondition arm.condition = .ok test) ∧ ∃ nodes, Standalone arm.body nodes

/-- The arms after the first one, and the body that is rendered where no condition is met. -/
def elseIfs : List Arm → List Char → List Char
  | [], last => Keyword.otherwise.alone ++ last
  | arm :: arms, last => Keyword.elseIf.before arm.condition ++ (arm.body ++ elseIfs arms last)

def chained (negated : Bool) (first : Arm) (rest : List Arm) (last : List Char) : List Char :=
  (Keyword.opening (.conditional negated)).before first.condition ++
    (first.body ++ (elseIfs rest last ++ (Keyword.closing (.conditional negated)).alone))

/-- Conditionals with one arm each, every one in the last body of the one before. -/
def nested : List Arm → List Char → List Char
  | [], last => last
  | arm :: arms, last => chained false arm [] (nested arms last)

/-! ## Trees -/

/-- A condition and the nodes that are rendered where it is met. -/
abbrev Choice := Expr × List Node

def choiceBranches : List Choice → List Node → List Node
  | [], last => [branchNode none false 0 last]
  | choice :: rest, last => branchNode (some choice.1) false 0 choice.2 :: choiceBranches rest last

def chainedTree (negated : Bool) (first : Choice) (rest : List Choice) (last : List Node) : Node :=
  .container .conditional 0
    (branchNode (some first.1) negated 0 first.2 :: choiceBranches rest last)

def nestedTree : List Choice → List Node → List Node
  | [], last => last
  | choice :: rest, last => [chainedTree false choice [] (nestedTree rest last)]

/-- What an arm is read as. -/
structure Arm.Reads (arm : Arm) (choice : Choice) : Prop where
  test : Expr.parseCondition arm.condition = .ok choice.1
  body : ReadsFirst arm.body choice.2

theorem Arm.WellFormed.exists_reads {arm : Arm} (h : arm.WellFormed) :
    ∃ choice : Choice, arm.Reads choice := by
  rcases h with ⟨⟨test, read⟩, nodes, alone⟩
  exact ⟨(test, Node.unlinedAll nodes), read, alone.readsFirst⟩

theorem opens_elseIfs (arms : List Arm) (last : List Char) (c : Construct) (rest : List Char) :
    Opens (elseIfs arms last ++ (Keyword.closing c).alone ++ rest) := by
  cases arms with
  | nil =>
    rw [elseIfs, List.append_assoc, List.append_assoc]
    exact opens_tagText _ _ _
  | cons arm arms =>
    rw [elseIfs, List.append_assoc, List.append_assoc]
    exact opens_tagText _ _ _

section Reading

variable (choice : Arm → Choice) {last : List Char} {nodes : List Node}

theorem readsBranches_elseIfs (hl : ReadsFirst last nodes) {arms : List Arm}
    (h : ∀ arm ∈ arms, arm.Reads (choice arm)) :
    ReadsBranches (elseIfs arms last) (choiceBranches (arms.map choice) nodes) := by
  induction arms with
  | nil => exact readsBranches_otherwise hl
  | cons arm arms ih =>
    rw [List.forall_mem_cons] at h
    exact readsBranches_elseIf h.1.test h.1.body (ih h.2) (opens_elseIfs arms last)

theorem readsFirst_chained (negated : Bool) (first : Arm) {test : Expr} {body : List Node}
    (read : Expr.parseCondition first.condition = .ok test) (hf : ReadsFirst first.body body)
    (hl : ReadsFirst last nodes) {rest : List Arm} (h : ∀ arm ∈ rest, arm.Reads (choice arm)) :
    ReadsFirst (chained negated first rest last)
      [chainedTree negated (test, body) (rest.map choice) nodes] :=
  (readsNode_conditional negated read hf (readsBranches_elseIfs choice hl h)
    (opens_elseIfs rest last)).first rfl

theorem readsFirst_nested (hl : ReadsFirst last nodes) {arms : List Arm}
    (h : ∀ arm ∈ arms, arm.Reads (choice arm)) :
    ReadsFirst (nested arms last) (nestedTree (arms.map choice) nodes) := by
  induction arms with
  | nil => exact hl
  | cons arm arms ih =>
    rw [List.forall_mem_cons] at h
    exact readsFirst_chained choice false arm h.1.test h.1.body (ih h.2) (by simp)

end Reading

/-! ## Rendering -/

namespace Rendering

variable (r : Rendering) (inner : Option (List Node → Step))

theorem renderBranches_choice (test : Expr) (negate : Bool) (body rest : List Node) (run : Run) :
    r.renderBranches inner (branchNode (some test) negate 0 body :: rest) run =
      r.taken run (some test) negate >>= fun found =>
        if found then r.renderNodes inner body run else r.renderBranches inner rest run := by
  rw [branchNode, Node.container, renderBranches_branch, renderChildren]

theorem renderBranches_last (nodes : List Node) :
    r.renderBranches inner [branchNode none false 0 nodes] = r.renderNodes inner nodes := by
  funext run
  rw [branchNode, Node.container, renderBranches_branch, renderChildren]
  rfl

theorem renderNodes_chained (negated : Bool) (first : Choice) (rest : List Choice)
    (last : List Node) :
    r.renderNodes inner [chainedTree negated first rest last] =
      r.renderBranches inner
        (branchNode (some first.1) negated 0 first.2 :: choiceBranches rest last) := by
  funext run
  rw [renderNodes_singleton, chainedTree, Node.container, renderNode, renderBranchesOf]

/-- The branches of a conditional are rendered as a conditional inside the last of them. -/
theorem renderBranches_choices (choices : List Choice) (last : List Node) :
    r.renderBranches inner (choiceBranches choices last) =
      r.renderNodes inner (nestedTree choices last) := by
  induction choices with
  | nil => exact r.renderBranches_last inner last
  | cons choice rest ih =>
    funext run
    rw [nestedTree, renderNodes_chained, choiceBranches, choiceBranches, renderBranches_choice,
      renderBranches_choice, ih, renderBranches_last]

theorem renderNodes_nestedTree (first : Choice) (rest : List Choice) (last : List Node) :
    r.renderNodes inner [chainedTree false first rest last] =
      r.renderNodes inner (nestedTree (first :: rest) last) := by
  rw [renderNodes_chained]
  exact r.renderBranches_choices inner (first :: rest) last

theorem taken_negated (run : Run) (test : Expr) :
    r.taken run (some test) true = (r.taken run (some test) false).map not := by
  rw [taken, taken]
  cases r.eval run test with
  | error failure => rfl
  | ok value =>
    change Except.ok (value.isTruthy != true) = Except.ok (!(value.isTruthy != false))
    cases value.isTruthy <;> rfl

/-- Negating the first condition swaps its body and the rest. -/
theorem renderNodes_negated (first : Choice) (rest : List Choice) (last : List Node) :
    r.renderNodes inner [chainedTree true first rest last] =
      r.renderNodes inner [chainedTree false (first.1, nestedTree rest last) [] first.2] := by
  funext run
  rw [renderNodes_chained, renderNodes_chained, renderBranches_choice, renderBranches_choice,
    renderBranches_choices, choiceBranches, renderBranches_last, taken_negated]
  cases r.taken run (some first.1) false with
  | error failure => rfl
  | ok found => cases found <;> rfl

/-- Past conditions that are not met, the first one that is met decides. -/
theorem renderNodes_nestedTree_of_met {run : Run} {before after : List Choice} {choice : Choice}
    (unmet : ∀ other ∈ before, r.taken run (some other.1) false = .ok false)
    (met : r.taken run (some choice.1) false = .ok true) (last : List Node) :
    r.renderNodes inner (nestedTree (before ++ choice :: after) last) run =
      r.renderNodes inner choice.2 run := by
  induction before with
  | nil =>
    rw [List.nil_append, nestedTree, renderNodes_chained, renderBranches_choice, met]
    rfl
  | cons other before ih =>
    rw [List.forall_mem_cons] at unmet
    rw [List.cons_append, nestedTree, renderNodes_chained, renderBranches_choice, unmet.1,
      ← ih unmet.2, choiceBranches, renderBranches_last]
    rfl

theorem render_of_unlined {nodes found : List Node} (h : Node.unlinedAll found = nodes)
    (run : Run) : r.render found run =
      r.renderNodes (r.inner (r.options.maxIncludeDepth - run.context.depth)) nodes run := by
  rw [render, renderWithin_eq, ← h, renderNodes_unlined]

/-- A condition can be read and is met, or is not, in a state. -/
def Decides (run : Run) (condition : List Char) (met : Bool) : Prop :=
  ∃ test value, Expr.parseCondition condition = .ok test ∧ r.eval run test = .ok value ∧
    value.isTruthy = met

theorem taken_of_decides {run : Run} {condition : List Char} {met : Bool} {test : Expr}
    (h : r.Decides run condition met) (read : Expr.parseCondition condition = .ok test) :
    r.taken run (some test) false = .ok met := by
  rcases h with ⟨other, value, hread, heval, rfl⟩
  rw [read] at hread
  cases hread
  rw [taken, heval]
  change Except.ok (value.isTruthy != false) = _
  cases value.isTruthy <;> rfl

end Rendering

/-- Both sources compile, and their trees do the same in every state of every rendering. -/
def RendersAlike (s t : List Char) : Prop :=
  ∃ first second, compile (String.ofList s) = .ok first ∧ compile (String.ofList t) = .ok second ∧
    ∀ (r : Rendering) (run : Run), r.render first run = r.render second run

theorem rendersAlike_of_reads {s t : List Char} {first second : List Node}
    (hs : ReadsFirst s first) (ht : ReadsFirst t second)
    (same : ∀ (r : Rendering) inner, r.renderNodes inner first = r.renderNodes inner second) :
    RendersAlike s t := by
  rcases hs.compile with ⟨a, ha, hfirst⟩
  rcases ht.compile with ⟨b, hb, hsecond⟩
  refine ⟨a, b, ha, hb, ?_⟩
  intro r run
  rw [r.render_of_unlined hfirst, r.render_of_unlined hsecond, same]

/-- A conditional is rendered as its arms nested in each other, and one that is negated as the one
in which its first body and the rest change places. The body of the first arm whose condition is met
is what is rendered, whatever the conditions after it are. -/
theorem conditional_reduces {first : Arm} {rest : List Arm} {last : List Char} {nodes : List Node}
    (arms : ∀ arm ∈ first :: rest, arm.WellFormed) (otherwise : Standalone last nodes) :
    RendersAlike (chained false first rest last) (nested (first :: rest) last) ∧
    RendersAlike (chained true first rest last)
      (chained false ⟨first.condition, nested rest last⟩ [] first.body) ∧
    ∀ (r : Rendering) (run : Run) (before : List Arm) (arm : Arm) (after : List Arm),
      first :: rest = before ++ arm :: after →
      (∀ other ∈ before, r.Decides run other.condition false) → r.Decides run arm.condition true →
      ∀ tree body, compile (String.ofList (chained false first rest last)) = .ok tree →
        compile (String.ofList arm.body) = .ok body → r.render tree run = r.render body run := by
  have read : ∀ arm ∈ first :: rest, ∃ choice : Choice, arm.Reads choice :=
    fun arm ha => (arms arm ha).exists_reads
  choose! choice reads using read
  have tail := otherwise.readsFirst
  have ⟨head, more⟩ := List.forall_mem_cons.mp reads
  have row (negated : Bool) : ReadsFirst (chained negated first rest last) _ :=
    readsFirst_chained choice negated first head.test head.body tail more
  have deep := readsFirst_nested choice tail more
  have swapped : ReadsFirst (chained false ⟨first.condition, nested rest last⟩ [] first.body) _ :=
    readsFirst_chained choice false ⟨first.condition, nested rest last⟩ head.test deep
      head.body (by simp)
  refine ⟨?_, ?_, ?_⟩
  · refine rendersAlike_of_reads (row false) (readsFirst_nested choice tail reads) ?_
    intro r inner
    exact r.renderNodes_nestedTree inner _ _ _
  · refine rendersAlike_of_reads (row true) swapped ?_
    intro r inner
    exact r.renderNodes_negated inner _ _ _
  · intro r run before arm after split unmet met tree body compiled compiledBody
    rw [split] at reads
    have here := reads arm (by simp)
    have chain := (row false).unlinedAll_of_compile compiled
    have own := here.body.unlinedAll_of_compile compiledBody
    have whole : choice first :: rest.map choice =
        before.map choice ++ choice arm :: after.map choice := by
      rw [← List.map_cons, split, List.map_append, List.map_cons]
    rw [r.render_of_unlined chain, r.render_of_unlined own]
    change r.renderNodes _ [chainedTree false (choice first) _ _] run = _
    rw [r.renderNodes_nestedTree, whole]
    refine r.renderNodes_nestedTree_of_met _ ?_ (r.taken_of_decides met here.test) _
    intro other ho
    rcases List.mem_map.mp ho with ⟨arm', ha, rfl⟩
    exact r.taken_of_decides (unmet arm' ha) (reads arm' (List.mem_append_left _ ha)).test

/-- Three arms, of which the second one is met: the variable in the third condition is undefined,
which strict options do not see. -/
theorem conditional_reduces_of_three :
    let first : Arm := ⟨['x'], ['1']⟩
    let second : Arm := ⟨['y'], "\x7b\x7b y \x7d\x7d".toList⟩
    let third : Arm := ⟨['z'], "\x7b% assign v = 3 %\x7d".toList⟩
    let r : Rendering :=
      ⟨{ Options.usual with strictVariables := true }, .direct Library.empty.read⟩
    let run : Run := ⟨.initial (.object [("x", .bool false), ("y", .int 2)]), [], ""⟩
    String.ofList (chained false first [second, third] ['4']) =
        "\x7b% if x %\x7d1\x7b% elsif y %\x7d\x7b\x7b y \x7d\x7d" ++
          "\x7b% elsif z %\x7d\x7b% assign v = 3 %\x7d\x7b% else %\x7d4\x7b% endif %\x7d" ∧
      RendersAlike (chained false first [second, third] ['4'])
        (nested [first, second, third] ['4']) ∧
      RendersAlike (chained true first [second, third] ['4'])
        (chained false ⟨['x'], nested [second, third] ['4']⟩ [] ['1']) ∧
      ∃ tree body, compile (String.ofList (chained false first [second, third] ['4'])) = .ok tree ∧
        compile "\x7b\x7b y \x7d\x7d" = .ok body ∧ r.render tree run = r.render body run := by
  intro first second third r run
  have alone : ∀ s ∈ [first.body, second.body, third.body, ['4']], ∃ nodes, Standalone s nodes := by
    have checked : ∀ s ∈ [first.body, second.body, third.body, ['4']],
        ((compile (String.ofList s)).toOption.any fun nodes =>
          nodes.all fun node => !node.isLayout) = true ∧
        (∀ d ∈ dashedDelimiters, ¬ d <:+: s) ∧ s.getLast? ≠ some '\x7b' := by
      decide +kernel
    intro s hs
    rcases checked s hs with ⟨compiles, undashed, last⟩
    rcases exists_eq_ok_of_any compiles with ⟨nodes, compiled, unlaid⟩
    exact ⟨nodes, compiled, by simpa using unlaid, undashed, last⟩
  have tested : ∀ arm ∈ [first, second, third],
      (Expr.parseCondition arm.condition).toOption.isSome = true := by
    decide +kernel
  have arms : ∀ arm ∈ [first, second, third], arm.WellFormed := by
    intro arm ha
    refine ⟨exists_eq_ok_of_isSome (tested arm ha), alone arm.body ?_⟩
    have := List.mem_map_of_mem (f := Arm.body) ha
    exact List.mem_append_left [['4']] this
  rcases alone ['4'] (by simp) with ⟨nodes, otherwise⟩
  have reduces := conditional_reduces arms otherwise
  have x : Expr.parseCondition ['x'] = .ok (.path "x" []) := by with_unfolding_all rfl
  have y : Expr.parseCondition ['y'] = .ok (.path "y" []) := by with_unfolding_all rfl
  have unmet : r.Decides run ['x'] false := ⟨_, .bool false, x, by with_unfolding_all rfl, rfl⟩
  have met : r.Decides run ['y'] true := ⟨_, .int 2, y, by with_unfolding_all rfl, rfl⟩
  rcases reduces.1 with ⟨tree, _, compiled, -⟩
  rcases alone second.body (by simp) with ⟨body, alone⟩
  refine ⟨by decide +kernel, reduces.1, reduces.2.1, tree, body, compiled, alone.compiled, ?_⟩
  refine reduces.2.2 r run [first] second [third] rfl ?_ met tree body compiled alone.compiled
  intro other ho
  rw [List.mem_singleton.mp ho]
  exact unmet

end TemplateSite
