import TemplateSite.Proofs.Render.Simulation

/-!
# What the strict modes change

Rendering in a strict mode gives what it gives without it, or stops at a variable that is undefined
or at a filter that is unknown. So a template that renders in strict mode renders to the same text
without it.
-/
namespace TemplateSite

namespace Options

def lenient (options : Options) : Options :=
  { options with strictVariables := false, strictFilters := false }

/-- The failures that the strict modes of the options add. -/
inductive Refuses (options : Options) : Failure RenderFault → Prop where
  | undefinedVariable (shown : String) (h : options.strictVariables = true) :
    Refuses options (.fault (.undefinedVariable shown))
  | undefinedFilter (name : String) (h : options.strictFilters = true) :
    Refuses options (.fault (.undefinedFilter name))

variable (options : Options)

theorem definedOr_matches (shown : String) (found : Option Value) :
    Outcome.Matches options.Refuses (· = ·) (definedOr options.strictVariables shown found)
      (definedOr false shown found) := by
  cases found with
  | some v => exact .refl _ _
  | none =>
    rw [definedOr, definedOr]
    split
    · rename_i strict
      exact .excuse (.undefinedVariable shown strict) _
    · exact .refl _ _

theorem applyFilter_matches (name : String) (input : Value) (args : List Value) :
    Outcome.Matches options.Refuses (· = ·)
      (applyFilter options.strictFilters options.now name input args)
      (applyFilter false options.now name input args) := by
  rw [applyFilter, applyFilter]
  cases Filter.ofName? name with
  | some filter => exact .refl _ _
  | none =>
    by_cases strict : options.strictFilters = true
    · rw [if_pos strict]
      exact .excuse (.undefinedFilter name strict) _
    · rw [if_neg strict]
      exact .refl _ _

/-- Rendering in the strict modes and without them: only what the strict modes refuse differs. -/
def strictness : Likeness where
  excused := options.Refuses
  names := (· = ·)
  caches := (· = ·)
  target _ := True
  expression _ := True
  reference _ := True
  path _ := True

theorem strictness_admits (nodes : List Node) : options.strictness.Admits nodes :=
  Likeness.plain_admits nodes

theorem strictness_relates (source : Source) :
    options.strictness.Relates ⟨options, .cached source⟩ ⟨options.lenient, .cached source⟩ :=
  Likeness.plain_relates rfl rfl (fun names => Expr.eval_matches names options.definedOr_matches)
    options.applyFilter_matches fun p _ _ hc =>
      .of_eq (congrArg (Loader.cached source p) hc) fun _ => ⟨rfl, rfl⟩

end Options

/-- The strict modes change a rendering only by failing on undefined variables and filters. -/
theorem renderTemplate_strict (options : Options) (source : Source) (nodes : List Node)
    (data : Value) :
    (renderTemplate options source nodes data = renderTemplate options.lenient source nodes data ∨
      (options.strictVariables = true ∧ ∃ shown,
        renderTemplate options source nodes data = .fault (.undefinedVariable shown)) ∨
      (options.strictFilters = true ∧ ∃ name,
        renderTemplate options source nodes data = .fault (.undefinedFilter name))) ∧
    ∀ text, renderTemplate options source nodes data = .ok text →
      renderTemplate options.lenient source nodes data = .ok text := by
  have alike : Outcome.Matches options.Refuses (· = ·) (renderTemplate options source nodes data)
      (renderTemplate options.lenient source nodes data) :=
    (options.strictness_relates source).renderText rfl (options.strictness_admits nodes) rfl rfl
  rcases alike.eq_or_excused with same | ⟨failure, failed, refused⟩
  · refine ⟨Or.inl same, ?_⟩
    intro text h
    exact same.symm.trans h
  · constructor
    · right
      cases refused with
      | undefinedVariable shown strict => exact Or.inl ⟨strict, shown, failed⟩
      | undefinedFilter name strict => exact Or.inr ⟨strict, name, failed⟩
    · intro text h
      rw [failed] at h
      cases h

end TemplateSite
