import TemplateSite.Proofs.Render.States

/-!
# The depth of includes and layouts

The limit of the depth only cuts a rendering off: under a lower limit it does the same as under a
higher one, unless it fails at an include or a layout that is too deep. At every point the depth is
the number of includes and layouts whose files are being rendered around that point, and this number
is within the limit.
-/
namespace TemplateSite

def Options.limited (options : Options) (depth : Nat) : Options :=
  { options with maxIncludeDepth := depth }

/-- Renderings that do the same up to a failure that is excused. -/
abbrev Likeness.exact (excused : Failure RenderFault → Prop) : Likeness :=
  .plain excused (· = ·)

theorem Likeness.exact_relates {excused : Failure RenderFault → Prop} (options : Options)
    (load : Loader) (d d' : Nat) :
    (exact excused).Relates ⟨options.limited d, load⟩ ⟨options.limited d', load⟩ :=
  plain_relates rfl rfl (fun names => Expr.eval_matches names fun _ _ => .refl _ _)
    (fun _ _ _ => .refl _ _) fun p _ _ hc => .of_eq (congrArg (load p) hc) fun _ => ⟨rfl, rfl⟩

namespace Rendering

section Place

variable {r : Rendering} {run next : Run}

theorem self_relates (r : Rendering) : (Likeness.exact fun _ => False).Relates r r :=
  Likeness.exact_relates r.options r.load r.options.maxIncludeDepth r.options.maxIncludeDepth

/-- A step that runs like itself is after it at the place where it was. -/
theorem place_of_steps {f : Step} (steps : (Likeness.exact fun _ => False).Steps f f)
    (h : f run = .ok next) : next.context.place = run.context.place := by
  have ends := steps "" run run ⟨⟨rfl, rfl, rfl, rfl⟩, rfl, String.empty_append.symm⟩
  rw [h] at ends
  rcases ends.exists_of_ok with ⟨_, -, ends⟩
  exact ends.left

theorem place_of_renderNode {levels : Nat} {node : Node}
    (h : r.renderNode (r.inner levels) node run = .ok next) :
    next.context.place = run.context.place :=
  place_of_steps (r.self_relates.renderNode (r.self_relates.enters rfl levels)
    (Node.everywhere_of_forall Likeness.plain_permits node)) h

theorem place_of_aside {f : Step} {content : String}
    (steps : (Likeness.exact fun _ => False).Steps f f)
    (h : aside f run = .ok (content, next)) : next.context.place = run.context.place := by
  rw [aside, bind_eq_ok_iff] at h
  rcases h with ⟨inside, rendered, ends⟩
  have kept := place_of_steps steps rendered
  cases ends
  exact kept

end Place

variable (r : Rendering)

/-- From a point at an include or a layout to the beginning of the file that it names. -/
inductive Opens : Stage → Stage → Prop where
  | included {levels line : Nat} {args : List Argument} {raw : String}
    {children : Option (List Node)} {rest nodes : List Node} {run : Run} {cache : PartialCache}
    {scope : Record Value} (hl : r.Loads run raw nodes cache)
    (hs : evalArguments r.options.strictVariables run.context args = .ok scope) :
    Opens ⟨levels + 1, .mk (.include args) line (some raw) children :: rest, run⟩
      ⟨levels, nodes, (({ run with cache } : Run).onContext fun ctx => ctx.push scope).deeper⟩
  | layoutFile {levels line : Nat} {raw content : String} {children : Option (List Node)}
    {rest nodes : List Node} {run next : Run} {cache : PartialCache}
    (hl : r.Loads run raw nodes cache)
    (hb : aside (r.renderChildren (r.inner (levels + 1)) children)
      (({ run with cache } : Run).withMode .store) = .ok (content, next)) :
    Opens ⟨levels + 1, .mk .layout line (some raw) children :: rest, run⟩
      ⟨levels, nodes, ((next.fillBlock "" content).withMode .output).deeper⟩

/-- The points that a rendering gets to from its start, each with the number of includes and layouts
whose files are being rendered around it. -/
inductive Nested (start : Stage) : Nat → Stage → Prop where
  | start : Nested start 0 start
  | along {n : Nat} {a b : Stage} (h : Nested start n a) (step : r.Leads a b)
    (inside : ¬ r.Opens a b) : Nested start n b
  | opening {n : Nat} {a b : Stage} (h : Nested start n a) (step : r.Opens a b) :
    Nested start (n + 1) b

variable {r} {start a b : Stage} {n : Nat}

/-- Every point that is reached has such a number. -/
theorem exists_nested_of_reaches (h : r.Reaches start a) : ∃ n, r.Nested start n a := by
  induction h with
  | refl => exact ⟨0, .start⟩
  | @tail b c _ step ih =>
    rcases ih with ⟨n, nested⟩
    by_cases opens : r.Opens b c
    · exact ⟨n + 1, nested.opening opens⟩
    · exact ⟨n, nested.along step opens⟩

/-- Where no file is opened, neither the levels that are left nor the depth change. -/
theorem Leads.depth_eq (step : r.Leads a b) (inside : ¬ r.Opens a b) :
    b.levels = a.levels ∧ b.run.context.depth = a.run.context.depth := by
  cases step with
  | past hn => exact ⟨rfl, congrArg Context.Place.depth (place_of_renderNode hn)⟩
  | loaded hk hl => exact ⟨rfl, rfl⟩
  | included hl hs => exact absurd (.included hl hs) inside
  | layoutBody hl => exact ⟨rfl, rfl⟩
  | layoutFile hl hb => exact absurd (.layoutFile hl hb) inside
  | block h => exact ⟨rfl, rfl⟩
  | taken h => exact ⟨rfl, rfl⟩
  | branch => exact ⟨rfl, rfl⟩
  | @iteration levels line spec file body rest run next before after item hi hb =>
    have inside := r.self_relates.renderNodes (r.self_relates.enters rfl levels)
      (Likeness.plain_admits body)
    have steps := Likeness.Steps.forEach
      (r.self_relates.iteration inside spec (before ++ item :: after).length) before 0
    exact ⟨rfl, congrArg Context.Place.depth (place_of_steps steps hb)⟩

theorem Opens.depth_eq (step : r.Opens a b) :
    a.levels = b.levels + 1 ∧ b.run.context.depth = a.run.context.depth + 1 := by
  cases step with
  | included hl hs => exact ⟨rfl, rfl⟩
  | @layoutFile levels line raw content children rest nodes run next cache hl hb =>
    have body := r.self_relates.renderChildren (r.self_relates.enters rfl (levels + 1))
      (Node.everywhereOf_of_forall Likeness.plain_permits children)
    have place := (Run.place_fillBlock next "" content).trans (place_of_aside body hb)
    have depth : (next.fillBlock "" content).context.depth = run.context.depth :=
      congrArg Context.Place.depth place
    exact ⟨rfl, congrArg (· + 1) depth⟩

/-- Of the levels at the start each file that is open has taken one, and the depth counts them. -/
theorem Nested.depth_eq (h : r.Nested start n a) :
    a.levels + n = start.levels ∧ a.run.context.depth = start.run.context.depth + n := by
  induction h with
  | start => exact ⟨rfl, rfl⟩
  | along _ step inside ih =>
    rcases step.depth_eq inside with ⟨levels, depth⟩
    exact ⟨levels ▸ ih.1, depth ▸ ih.2⟩
  | opening _ step ih =>
    rcases step.depth_eq with ⟨levels, depth⟩
    omega

end Rendering

/-- Under a lower limit of the depth a rendering does what it does under a higher one, or fails at a
file that is too deep. At every point that it reaches under the lower limit the depth is the number
of includes and layouts whose files are being rendered around it, and at most the limit. -/
theorem renderTemplate_limited (options : Options) (source : Source) (nodes : List Node)
    (data : Value) {d d' : Nat} (h : d ≤ d') :
    (renderTemplate (options.limited d) source nodes data =
        renderTemplate (options.limited d') source nodes data ∨
      ∃ path, renderTemplate (options.limited d) source nodes data =
        .fault (.includeDepth d path)) ∧
    ∀ stage, (Rendering.mk (options.limited d) (.cached source)).Reaches
        ⟨d, nodes, ⟨.initial data, [], ""⟩⟩ stage →
      ∃ n, n ≤ d ∧ stage.run.context.depth = n ∧
        ∀ m, (Rendering.mk (options.limited d) (.cached source)).Nested
          ⟨d, nodes, ⟨.initial data, [], ""⟩⟩ m stage ↔ m = n := by
  constructor
  · let excused (failure : Failure RenderFault) : Prop :=
      ∃ path, failure = .fault (.includeDepth d path)
    have sim : (Likeness.exact excused).Relates ⟨options.limited d, .cached source⟩
        ⟨options.limited d', .cached source⟩ := Likeness.exact_relates options (.cached source) d d'
    have enters := sim.enters_of_le (fun path => ⟨path, rfl⟩) h
    have matched : Outcome.Matches excused (· = ·)
        (renderTemplate (options.limited d) source nodes data)
        (renderTemplate (options.limited d') source nodes data) :=
      sim.renderText_of_enters enters (Likeness.plain_admits nodes)
        rfl rfl
    rcases matched.eq_or_excused with same | ⟨_, failed, path, rfl⟩
    · exact Or.inl same
    · exact Or.inr ⟨path, failed⟩
  · intro stage reached
    rcases Rendering.exists_nested_of_reaches reached with ⟨n, nested⟩
    have count : ∀ m, (Rendering.mk (options.limited d) (.cached source)).Nested
        ⟨d, nodes, ⟨.initial data, [], ""⟩⟩ m stage →
          stage.levels + m = d ∧ stage.run.context.depth = 0 + m := fun m h => h.depth_eq
    have here := count n nested
    refine ⟨n, by omega, by omega, ?_⟩
    intro m
    constructor
    · intro other
      have there := count m other
      omega
    · rintro rfl
      exact nested

/-- A file that includes another one: two levels are enough for it, and one is not. -/
theorem renderTemplate_limited_of_include :
    let library : Library := ⟨[(⟨"a.liquid"⟩, "x\x7b% include 'b' %\x7d"), (⟨"b.liquid"⟩, "y")]⟩
    let nodes : List Node := [.mk (.include []) 1 (some "'a'") none]
    renderTemplate (Options.usual.limited 2) library.read nodes .nil = .ok "xy" ∧
      ∃ path, renderTemplate (Options.usual.limited 1) library.read nodes .nil =
        .fault (.includeDepth 1 path) := by
  intro library nodes
  have deep : renderTemplate (Options.usual.limited 2) library.read nodes .nil = .ok "xy" :=
    toOption_eq_some_iff.mp (by decide +kernel)
  have failed : (renderTemplate (Options.usual.limited 1) library.read nodes .nil).toOption =
      none := by
    decide +kernel
  refine ⟨deep, ?_⟩
  rcases (renderTemplate_limited .usual library.read nodes .nil (show 1 ≤ 2 by decide)).1 with
    same | cut
  · rw [same, deep] at failed
    cases failed
  · exact cut

end TemplateSite
