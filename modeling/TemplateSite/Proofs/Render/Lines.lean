import TemplateSite.Proofs.Render.Simulation
import TemplateSite.Proofs.Template.Spelling

/-!
# Lines are not rendered

What a tree is rendered to depends on its nodes but not on the lines they start on.
-/
namespace TemplateSite

/-- The tree of a text that starts on a line. -/
def Node.ofText (line : Nat) (t : List Char) : List Node :=
  if t.isEmpty then [] else [.leaf (.text (String.ofList t)) line]

namespace Rendering

variable (r : Rendering) (inner : Option (List Node → Step))

theorem renderNodes_ofText (line : Nat) (t : List Char) :
    r.renderNodes inner (Node.ofText line t) = fun run => .ok (run.write (String.ofList t)) := by
  cases t with
  | nil =>
    rw [Node.ofText, List.isEmpty_nil, if_pos rfl, renderNodes_nil]
    funext run
    rw [Run.write, String.ofList_nil, String.append_empty]
  | cons c t =>
    rw [Node.ofText, List.isEmpty_cons, if_neg Bool.false_ne_true, renderNodes_singleton, Node.leaf,
      renderNode]

theorem renderNodes_append (first rest : List Node) (run : Run) :
    r.renderNodes inner (first ++ rest) run =
      r.renderNodes inner first run >>= r.renderNodes inner rest := by
  induction first generalizing run with
  | nil =>
    rw [renderNodes_nil]
    rfl
  | cons node first ih =>
    rw [List.cons_append, renderNodes_cons, renderNodes_cons, bind_assoc]
    congr 1
    funext run
    exact ih run

mutual

theorem renderNode_unlined : ∀ node : Node,
    r.renderNode inner node.unlined = r.renderNode inner node
  | .mk kind line file children => by
    have nodes := renderChildren_unlined children
    have branches := renderBranchesOf_unlined children
    funext run
    rw [Node.unlined, renderNode, renderNode, nodes, branches]

theorem renderChildren_unlined : ∀ children : Option (List Node),
    r.renderChildren inner (Node.unlinedOf children) = r.renderChildren inner children
  | none => by rw [Node.unlinedOf]
  | some nodes => by
    rw [Node.unlinedOf, renderChildren, renderChildren, renderNodes_unlined nodes]

theorem renderNodes_unlined : ∀ nodes : List Node,
    r.renderNodes inner (Node.unlinedAll nodes) = r.renderNodes inner nodes
  | [] => by rw [Node.unlinedAll]
  | node :: rest => by
    funext run
    rw [Node.unlinedAll, renderNodes_cons, renderNodes_cons, renderNode_unlined node,
      renderNodes_unlined rest]

theorem renderBranchesOf_unlined : ∀ children : Option (List Node),
    r.renderBranchesOf inner (Node.unlinedOf children) = r.renderBranchesOf inner children
  | none => by rw [Node.unlinedOf]
  | some nodes => by
    rw [Node.unlinedOf, renderBranchesOf, renderBranchesOf, renderBranches_unlined nodes]

theorem renderBranches_unlined : ∀ nodes : List Node,
    r.renderBranches inner (Node.unlinedAll nodes) = r.renderBranches inner nodes
  | [] => by rw [Node.unlinedAll]
  | .mk kind line file children :: rest => by
    have nodes := renderChildren_unlined children
    have more := renderBranches_unlined rest
    rw [Node.unlinedAll, Node.unlined]
    cases kind with
    | branch test negate =>
      funext run
      rw [renderBranches_branch, renderBranches_branch, nodes, more]
    | _ =>
      rw [renderBranches_other _ _ rfl, renderBranches_other _ _ rfl]
      exact more

end

end Rendering
end TemplateSite
