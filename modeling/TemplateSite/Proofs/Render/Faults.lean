import TemplateSite.Proofs.Render.States

/-!
# Faults of files

Only includes and layouts run into faults of files: a reference that leads to none, a file that
cannot be read or compiled, or one that is too deep. A tree without them fails at most where an
expression or a filter has no value.
-/
namespace TemplateSite

/-- Whether a fault is one of a reference or of a file. -/
def RenderFault.ofFile : RenderFault → Bool
  | .malformedReference _ => true
  | .referenceKind _ => true
  | .unreadable _ _ => true
  | .invalidPartial _ _ => true
  | .includeDepth _ _ => true
  | _ => false

namespace Outcome

variable {α β ι : Type}

/-- An outcome that is no fault of a file. -/
def Local (x : Outcome α) : Prop :=
  ∀ f, x = fault f → f.ofFile = false

theorem local_ok (a : α) : Local (.ok a) := by
  intro f h
  cases h

theorem local_fault {f : RenderFault} (h : f.ofFile = false) : Local (fault f : Outcome α) := by
  intro g hg
  cases hg
  exact h

theorem Local.bind {x : Outcome α} {f : α → Outcome β} (hx : x.Local) (hf : ∀ a, (f a).Local) :
    (x >>= f).Local := by
  cases x with
  | ok a => exact hf a
  | error failure =>
    intro g hg
    cases hg
    exact hx g rfl

theorem Local.map {x : Outcome α} (hx : x.Local) (f : α → β) : Local (x.map f) := by
  cases x with
  | ok a => exact local_ok _
  | error failure =>
    intro g hg
    cases hg
    exact hx g rfl

theorem local_mapM {f : ι → Outcome α} (hf : ∀ i, (f i).Local) (items : List ι) :
    (items.mapM f).Local := by
  induction items with
  | nil => exact local_ok _
  | cons i items ih =>
    rw [List.mapM_cons]
    exact (hf i).bind fun a => ih.bind fun more => local_ok _

theorem local_foldlM {f : α → ι → Outcome α} (hf : ∀ a i, (f a i).Local) (items : List ι) (a : α) :
    (items.foldlM f a).Local := by
  induction items generalizing a with
  | nil => exact local_ok _
  | cons i items ih =>
    rw [List.foldlM_cons]
    exact (hf a i).bind ih

end Outcome

open Outcome

/-! ## Values -/

theorem rangeValue_local (first last : Value) : (rangeValue first last).Local := by
  rw [rangeValue.eq_def]
  split
  · split
    · exact local_fault rfl
    · exact local_ok _
  · exact local_fault rfl

theorem definedOr_local (strict : Bool) (shown : String) (found : Option Value) :
    (definedOr strict shown found).Local := by
  rw [definedOr.eq_def]
  split
  · exact local_ok _
  · split
    · exact local_fault rfl
    · exact local_ok _

section Values

variable (strict : Bool) (ctx : Context)

mutual

theorem Expr.eval_local : ∀ e : Expr, (e.eval strict ctx).Local
  | .literal v => by
    rw [Expr.eval]
    exact local_ok v
  | .path root segments => by
    rw [Expr.eval]
    split
    · exact definedOr_local strict _ none
    · exact (Segment.follow_local segments _).bind fun found => definedOr_local _ _ found
  | .range first last => by
    rw [Expr.eval]
    exact (Expr.eval_local first).bind fun a => (Expr.eval_local last).bind (rangeValue_local a)
  | .compare op left right => by
    rw [Expr.eval]
    exact (Expr.eval_local left).bind fun a => (Expr.eval_local right).bind fun b => local_ok _
  | .and left right => by
    rw [Expr.eval]
    apply (Expr.eval_local left).bind
    intro a
    split
    · exact (Expr.eval_local right).bind fun b => local_ok _
    · exact local_ok _
  | .or left right => by
    rw [Expr.eval]
    apply (Expr.eval_local left).bind
    intro a
    split
    · exact local_ok _
    · exact (Expr.eval_local right).bind fun b => local_ok _

theorem Segment.follow_local : ∀ (segments : List Segment) (value : Value),
    (Segment.follow strict ctx value segments).Local
  | [], value => by
    rw [Segment.follow]
    exact local_ok _
  | segment :: rest, value => by
    rw [Segment.follow]
    apply (Segment.evalKey_local segment).bind
    intro key
    split
    · exact local_ok _
    · exact Segment.follow_local rest _

theorem Segment.evalKey_local : ∀ segment : Segment, (segment.evalKey strict ctx).Local
  | .key name => by
    rw [Segment.evalKey]
    exact local_ok _
  | .index e => by
    rw [Segment.evalKey]
    exact Expr.eval_local e

end

end Values

theorem dateText_local (now : Calendar.Moment) (input pattern : Value) :
    (dateText now input pattern).Local := by
  rw [dateText.eq_def]
  split
  · split
    · exact local_fault rfl
    · split
      · exact local_ok _
      · split
        · intro f h
          cases h
        · exact local_ok _
  · exact local_fault rfl

theorem applyFilter_local (strict : Bool) (now : Calendar.Moment) (name : String) (input : Value)
    (args : List Value) : (applyFilter strict now name input args).Local := by
  rw [applyFilter]
  split
  · rename_i filter _
    cases filter with
    | date => exact dateText_local _ _ _
    | arithmetic op =>
      intro f h
      rcases mapError_eq_error_iff.mp h with ⟨e, -, he⟩
      cases he
      rfl
    | _ => exact local_ok _
  · split
    · exact local_fault rfl
    · exact local_ok _

/-! ## Trees -/

namespace Rendering

variable (r : Rendering)

theorem evalOutput_local (run : Run) (o : Output) : (r.evalOutput run o).Local := by
  apply (Expr.eval_local _ _ o.expr).bind
  apply local_foldlM
  intro value call
  exact (local_mapM (Expr.eval_local _ _) _).bind fun args =>
    applyFilter_local _ _ _ _ args

theorem applyBound_local (run : Run) (bound : LoopBound) (e : Option Expr) (items : List Value) :
    (r.applyBound run bound e items).Local := by
  cases e with
  | none => exact local_ok _
  | some e =>
    apply Local.map
    apply (Expr.eval_local _ _ e).bind
    intro value
    split
    · exact local_ok _
    · exact local_fault rfl

theorem loopItems_local (run : Run) (spec : LoopSpec) : (r.loopItems run spec).Local := by
  apply (Expr.eval_local _ _ spec.collection).bind
  intro collection
  apply (r.applyBound_local run .offset spec.offset _).bind
  intro items
  apply (r.applyBound_local run .limit spec.limit _).bind
  intro items
  exact local_ok _

theorem taken_local (run : Run) (test : Option Expr) (negate : Bool) :
    (r.taken run test negate).Local := by
  cases test with
  | none => exact local_ok _
  | some e => exact (Expr.eval_local _ _ e).bind fun value => local_ok _

section Steps

variable {step : Step} (h : ∀ run, (step run).Local)

include h

theorem aside_local (run : Run) : (aside step run).Local :=
  (h _).bind fun _ => local_ok _

theorem renderBlock_local (name : String) (run : Run) : (renderBlock name step run).Local := by
  rw [renderBlock]
  split
  · simp only [pure_bind]
    split <;> exact local_ok _
  · apply (aside_local h _).bind
    rintro ⟨content, inside⟩
    simp only [pure_bind]
    split <;> exact local_ok _

theorem renderLoop_local (spec : LoopSpec) (run : Run) : (r.renderLoop spec step run).Local := by
  apply (r.loopItems_local run spec).bind
  intro items
  generalize 0 = index
  generalize items.length = length
  induction items generalizing index run with
  | nil => exact local_ok _
  | cons item items ih =>
    rw [forEach_cons]
    apply ((h _).bind fun inside => local_ok _).bind
    intro next
    exact ih next (index + 1)

end Steps

/-- Whether a kind of node loads no file. -/
abbrev Unloading : NodeKind → Option String → Prop :=
  fun kind _ => kind.loads = false

variable {r} (inner : Option (List Node → Step))

mutual

theorem renderNode_local : ∀ {node : Node}, node.Everywhere Unloading → ∀ run,
    (r.renderNode inner node run).Local
  | .mk kind line file children => by
    intro h run
    rw [Node.Everywhere] at h
    have inside := renderChildren_local h.2
    have branches := renderBranchesOf_local h.2
    rw [renderNode]
    cases kind with
    | text s => exact local_ok _
    | output o => exact (r.evalOutput_local run o).bind fun value => local_ok _
    | assign name o => exact (r.evalOutput_local run o).bind fun value => local_ok _
    | «include» args => cases h.1
    | layout => cases h.1
    | block name => exact renderBlock_local inside name run
    | conditional => exact branches run
    | branch test negate => exact inside run
    | loop spec => exact r.renderLoop_local inside spec run

theorem renderChildren_local : ∀ {children : Option (List Node)},
    Node.everywhereOf Unloading children → ∀ run, (r.renderChildren inner children run).Local
  | none => by
    intro _ run
    rw [renderChildren]
    exact local_ok _
  | some nodes => by
    intro h
    rw [Node.everywhereOf] at h
    rw [renderChildren]
    exact renderNodes_local h

/-- A tree without includes and layouts does not run into a fault of a file. -/
theorem renderNodes_local : ∀ {nodes : List Node}, Node.everywhereAll Unloading nodes → ∀ run,
    (r.renderNodes inner nodes run).Local
  | [] => by
    intro _ run
    rw [renderNodes_nil]
    exact local_ok _
  | node :: rest => by
    intro h run
    rw [Node.everywhereAll] at h
    rw [renderNodes_cons]
    exact (renderNode_local h.1 run).bind (renderNodes_local h.2)

theorem renderBranchesOf_local : ∀ {children : Option (List Node)},
    Node.everywhereOf Unloading children → ∀ run, (r.renderBranchesOf inner children run).Local
  | none => by
    intro _ run
    rw [renderBranchesOf]
    exact local_ok _
  | some nodes => by
    intro h
    rw [Node.everywhereOf] at h
    rw [renderBranchesOf]
    exact renderBranches_local h

theorem renderBranches_local : ∀ {nodes : List Node}, Node.everywhereAll Unloading nodes → ∀ run,
    (r.renderBranches inner nodes run).Local
  | [] => by
    intro _ run
    rw [renderBranches]
    exact local_ok _
  | .mk kind line file children :: rest => by
    intro h run
    rw [Node.everywhereAll, Node.Everywhere] at h
    have inside := renderChildren_local h.1.2
    have more := renderBranches_local h.2
    cases kind with
    | branch test negate =>
      rw [renderBranches_branch]
      apply (r.taken_local run test negate).bind
      intro found
      cases found with
      | true => exact inside run
      | false => exact more run
    | _ =>
      rw [renderBranches_other _ _ rfl]
      exact more run

end

end Rendering
end TemplateSite
