import TemplateSite.Proofs.Data.Record
import TemplateSite.Proofs.Render.Evaluation
import TemplateSite.Proofs.Template.Everywhere

/-!
# Renderings that run alike

Two renderings of the same nodes, with other options, other data or other places to read partials
from, run alike when the parts that they take from there do: the values of expressions and filters,
the paths of references, and the partials. What is assumed of these parts is assumed only of the
expressions and the references in the nodes and in the partials that are loaded. Failures of the
first rendering may be excused; apart from them the outcomes are the same. Along the way no
rendering leaves its place: after it the scopes, the block mode and the depth are what they were.
Nor does it lose a block that is stored.
-/
namespace TemplateSite

namespace Rendering

theorem forEach_cons (step : Nat → Value → Step) (index : Nat) (item : Value) (rest : List Value)
    (run : Run) : forEach step index (item :: rest) run =
      step index item run >>= forEach step (index + 1) rest := by
  rw [forEach]
  cases step index item run <;> rfl

/-- The step into the trees of files where includes and layouts may be nested a number of levels
deeper. -/
def inner (r : Rendering) : Nat → Option (List Node → Step)
  | 0 => none
  | levels + 1 => some (r.renderWithin levels)

theorem renderWithin_eq (r : Rendering) (levels : Nat) :
    r.renderWithin levels = r.renderNodes (r.inner levels) := by
  cases levels <;> rfl

variable (r : Rendering) (inner : Option (List Node → Step))

theorem renderNodes_nil : renderNodes r inner [] = fun run => .ok run := by
  rw [renderNodes]

theorem renderNodes_cons (node : Node) (rest : List Node) (run : Run) :
    renderNodes r inner (node :: rest) run =
      renderNode r inner node run >>= renderNodes r inner rest := by
  rw [renderNodes]
  beta_reduce
  cases renderNode r inner node run <;> rfl

theorem renderNodes_singleton (node : Node) :
    renderNodes r inner [node] = renderNode r inner node := by
  funext run
  rw [renderNodes_cons, renderNodes_nil]
  cases renderNode r inner node run <;> rfl

theorem renderBranches_branch (test : Option Expr) (negate : Bool) (line : Nat)
    (file : Option String) (children : Option (List Node)) (rest : List Node) (run : Run) :
    renderBranches r inner (.mk (.branch test negate) line file children :: rest) run =
      r.taken run test negate >>= fun found =>
        if found then renderChildren r inner children run
        else renderBranches r inner rest run := by
  rw [renderBranches]
  beta_reduce
  cases r.taken run test negate with
  | error failure => rfl
  | ok found => cases found <;> rfl

theorem renderBranches_other {node : Node} (h : node.branch? = none) (rest : List Node) :
    renderBranches r inner (node :: rest) = renderBranches r inner rest := by
  rcases node with ⟨kind, line, file, children⟩
  cases kind with
  | branch test negate => cases h
  | _ => rw [renderBranches]; simp

end Rendering

def NodeKind.expressions : NodeKind → List Expr
  | .output o => o.expr :: o.filters.flatMap FilterCall.args
  | .assign _ o => o.expr :: o.filters.flatMap FilterCall.args
  | .include args => args.map Prod.snd
  | .branch test _ => test.toList
  | .loop spec => spec.collection :: (spec.offset.toList ++ spec.limit.toList)
  | _ => []

/-- The name that a node of this kind gives a value for the rest of the rendering. -/
def NodeKind.target? : NodeKind → Option String
  | .assign name _ => some name
  | _ => none

/-- The reference by which a node of this kind loads the file that it names. -/
def NodeKind.reference? : NodeKind → Option String → Option String
  | .include _, file => file
  | .layout, file => file
  | _, _ => none

theorem NodeKind.mem_of_mem_reference? {kind : NodeKind} {file : Option String} {raw : String}
    (h : raw ∈ kind.reference? file) : raw ∈ file := by
  cases kind with
  | «include» args => exact h
  | layout => exact h
  | _ => cases h

/-- The part of a context that a rendering leaves as it found it. -/
structure Context.Place where
  scopes : List (Record Value)
  mode : BlockMode
  depth : Nat

def Context.place (ctx : Context) : Context.Place :=
  ⟨ctx.scopes, ctx.mode, ctx.depth⟩

/-- In what two renderings are alike: the failures of the first one that are excused, the relations
between what names stand for and between the partials that are kept, and the assigned names, the
expressions, the references and the paths that the assumptions are about. -/
structure Likeness where
  excused : Failure RenderFault → Prop
  names : Names → Names → Prop
  caches : PartialCache → PartialCache → Prop
  target : String → Prop
  expression : Expr → Prop
  reference : String → Prop
  path : Path → Prop

/-- Contexts that differ in what names stand for only. -/
structure Context.Alike (R : Names → Names → Prop) (a b : Context) : Prop where
  names : R a.names b.names
  blocks : a.blocks = b.blocks
  mode : a.mode = b.mode
  depth : a.depth = b.depth

namespace Likeness

variable (t : Likeness)

/-- A node about which the assumptions are made. -/
structure Permits (kind : NodeKind) (file : Option String) : Prop where
  target : ∀ name ∈ kind.target?, t.target name
  expression : ∀ e ∈ kind.expressions, t.expression e
  reference : ∀ raw ∈ kind.reference? file, t.reference raw

/-- Nodes about which the assumptions are made, with all nodes inside them. -/
def Admits (nodes : List Node) : Prop :=
  Node.everywhereAll t.Permits nodes

/-- States of two renderings that run alike; the first one wrote the text `before` ahead of what the
other one wrote. -/
structure Alike (before : String) (a b : Run) : Prop where
  context : a.context.Alike t.names b.context
  cache : t.caches a.cache b.cache
  out : a.out = before ++ b.out

/-- The states after steps of two renderings: they are alike, each is at the place where it was, and
the blocks that were stored still are. -/
structure Ends (before : String) (a b x y : Run) : Prop where
  alike : t.Alike before x y
  left : x.context.place = a.context.place
  right : y.context.place = b.context.place
  blocks : a.context.blocks.Grows x.context.blocks

/-- Steps that lead from states that are alike to outcomes that are alike, and keep the place. -/
def Steps (first second : Rendering.Step) : Prop :=
  ∀ before a b, t.Alike before a b →
    Outcome.Matches t.excused (t.Ends before a b) (first a) (second b)

/-- What is assumed of the parts of two renderings. -/
structure Relates (r₁ r₂ : Rendering) : Prop where
  expression : ∀ {a b : Context} {e : Expr}, a.Alike t.names b → t.expression e →
    Outcome.Matches t.excused (· = ·) (e.eval r₁.options.strictVariables a)
      (e.eval r₂.options.strictVariables b)
  filter : ∀ name value args, Outcome.Matches t.excused (· = ·)
    (applyFilter r₁.options.strictFilters r₁.options.now name value args)
    (applyFilter r₂.options.strictFilters r₂.options.now name value args)
  path : ∀ {a b : Run} {raw : String}, a.context.Alike t.names b.context → t.reference raw →
    Outcome.Matches t.excused (fun p q => p = q ∧ t.path p) (r₁.filePath a raw) (r₂.filePath b raw)
  load : ∀ {p : Path} {c d : PartialCache}, t.path p → t.caches c d →
    Outcome.Matches t.excused (fun x y => x.1 = y.1 ∧ t.Admits x.1 ∧ t.caches x.2 y.2)
      (r₁.load p c) (r₂.load p d)
  push : ∀ {m n : Names} (scope : Record Value), t.names m n →
    t.names (m.push scope) (n.push scope)
  pop : ∀ {m n : Names} {scope : Record Value}, t.names (m.push scope) (n.push scope) →
    t.names m n
  assign : ∀ {m n : Names} {name : String} (value : Value), t.target name → t.names m n →
    t.names (m.assign name value) (n.assign name value)

section Values

variable {t} {r₁ r₂ : Rendering} {before : String} {a b : Run}

theorem Relates.eval (sim : t.Relates r₁ r₂) (h : t.Alike before a b) {e : Expr}
    (he : t.expression e) :
    Outcome.Matches t.excused (· = ·) (r₁.eval a e) (r₂.eval b e) :=
  sim.expression h.context he

theorem Relates.evalFilters (sim : t.Relates r₁ r₂) (h : t.Alike before a b)
    {calls : List FilterCall} (he : ∀ e ∈ calls.flatMap FilterCall.args, t.expression e)
    (input : Value) :
    Outcome.Matches t.excused (· = ·) (r₁.evalFilters a calls input)
      (r₂.evalFilters b calls input) := by
  rw [Rendering.evalFilters, Rendering.evalFilters]
  refine .foldlM ?_ rfl
  rintro call hcall value _ rfl
  have args : Outcome.Matches t.excused (· = ·)
      (evalAll r₁.options.strictVariables a.context call.args)
      (evalAll r₂.options.strictVariables b.context call.args) := by
    refine .mapM ?_
    intro e hm
    exact sim.eval h (he e (List.mem_flatMap.mpr ⟨call, hcall, hm⟩))
  apply args.bind_eq
  intro values
  exact sim.filter call.name value values

theorem Relates.evalOutput (sim : t.Relates r₁ r₂) (h : t.Alike before a b) {o : Output}
    (he : ∀ e ∈ o.expr :: o.filters.flatMap FilterCall.args, t.expression e) :
    Outcome.Matches t.excused (· = ·) (r₁.evalOutput a o) (r₂.evalOutput b o) := by
  rw [Rendering.evalOutput, Rendering.evalOutput]
  apply (sim.eval h (he o.expr (List.mem_cons_self ..))).bind_eq
  intro value
  exact sim.evalFilters h (fun e hm => he e (List.mem_cons_of_mem _ hm)) value

theorem Relates.evalArguments (sim : t.Relates r₁ r₂) (h : t.Alike before a b)
    {args : List Argument} (he : ∀ e ∈ args.map Prod.snd, t.expression e) :
    Outcome.Matches t.excused (· = ·)
      (TemplateSite.evalArguments r₁.options.strictVariables a.context args)
      (TemplateSite.evalArguments r₂.options.strictVariables b.context args) := by
  rw [TemplateSite.evalArguments, TemplateSite.evalArguments]
  refine .foldlM ?_ rfl
  rintro arg harg scope _ rfl
  apply (sim.eval h (he arg.2 (List.mem_map_of_mem harg))).bind_eq
  intro value
  exact .refl _ _

theorem Relates.applyBound (sim : t.Relates r₁ r₂) (h : t.Alike before a b) (bound : LoopBound)
    {e : Option Expr} (he : ∀ e' ∈ e.toList, t.expression e') (items : List Value) :
    Outcome.Matches t.excused (· = ·) (r₁.applyBound a bound e items)
      (r₂.applyBound b bound e items) := by
  cases e with
  | none => exact .refl _ _
  | some e =>
    have value := sim.eval h (he e (List.mem_singleton_self e))
    have number : Outcome.Matches t.excused (· = ·) (r₁.loopBound a bound e)
        (r₂.loopBound b bound e) := by
      rw [Rendering.loopBound, Rendering.loopBound]
      apply value.bind_eq
      intro v
      exact .refl _ _
    rw [Rendering.applyBound, Rendering.applyBound]
    exact number.map_eq _

theorem Relates.loopItems (sim : t.Relates r₁ r₂) (h : t.Alike before a b) {spec : LoopSpec}
    (he : ∀ e ∈ (NodeKind.loop spec).expressions, t.expression e) :
    Outcome.Matches t.excused (· = ·) (r₁.loopItems a spec) (r₂.loopItems b spec) := by
  rw [Rendering.loopItems, Rendering.loopItems]
  apply (sim.eval h (he spec.collection (List.mem_cons_self ..))).bind_eq
  intro collection
  have offset : ∀ e ∈ spec.offset.toList, t.expression e := by
    intro e hm
    exact he e (List.mem_cons_of_mem _ (List.mem_append_left _ hm))
  apply (sim.applyBound h .offset offset _).bind_eq
  intro items
  have limit : ∀ e ∈ spec.limit.toList, t.expression e := by
    intro e hm
    exact he e (List.mem_cons_of_mem _ (List.mem_append_right _ hm))
  apply (sim.applyBound h .limit limit _).bind_eq
  intro items
  exact .refl _ _

theorem Relates.taken (sim : t.Relates r₁ r₂) (h : t.Alike before a b) {test : Option Expr}
    (he : ∀ e ∈ test.toList, t.expression e) (negate : Bool) :
    Outcome.Matches t.excused (· = ·) (r₁.taken a test negate) (r₂.taken b test negate) := by
  cases test with
  | none => exact .refl _ _
  | some e =>
    rw [Rendering.taken, Rendering.taken]
    apply (sim.eval h (he e (List.mem_singleton_self e))).bind_eq
    intro value
    exact .refl _ _

end Values

section Runs

variable {t} {before : String} {a b x y : Run}

theorem Ends.refl (h : t.Alike before a b) : t.Ends before a b a b :=
  ⟨h, rfl, rfl, .refl _⟩

theorem Ends.trans {u v : Run} (h : t.Ends before a b x y) (hu : t.Ends before x y u v) :
    t.Ends before a b u v :=
  ⟨hu.alike, hu.left.trans h.left, hu.right.trans h.right, h.blocks.trans hu.blocks⟩

theorem Alike.write (h : t.Alike before a b) (s : String) :
    t.Alike before (a.write s) (b.write s) :=
  ⟨h.context, h.cache, by rw [Run.write, Run.write, h.out, String.append_assoc]⟩

theorem Alike.withMode (h : t.Alike before a b) (mode : BlockMode) :
    t.Alike before (a.withMode mode) (b.withMode mode) :=
  ⟨{ h.context with mode := rfl }, h.cache, h.out⟩

theorem Alike.deeper (h : t.Alike before a b) : t.Alike before a.deeper b.deeper :=
  ⟨{ h.context with depth := congrArg (· + 1) h.context.depth }, h.cache, h.out⟩

theorem Alike.shallower (h : t.Alike before a b) : t.Alike before a.shallower b.shallower :=
  ⟨{ h.context with depth := congrArg (· - 1) h.context.depth }, h.cache, h.out⟩

theorem Alike.storeBlock (h : t.Alike before a b) (name content : String) :
    t.Alike before (a.storeBlock name content) (b.storeBlock name content) :=
  ⟨{ h.context with blocks := congrArg (Record.insert name content) h.context.blocks }, h.cache,
    h.out⟩

theorem Alike.fillBlock (h : t.Alike before a b) (name content : String) :
    t.Alike before (a.fillBlock name content) (b.fillBlock name content) := by
  rw [Run.fillBlock, Run.fillBlock, ← h.context.blocks]
  split
  · exact h
  · exact h.storeBlock name content

theorem Alike.withCache (h : t.Alike before a b) {c d : PartialCache} (hc : t.caches c d) :
    t.Alike before { a with cache := c } { b with cache := d } :=
  ⟨h.context, hc, h.out⟩

theorem Alike.aside (h : t.Alike before a b) :
    t.Alike "" { a with out := "" } { b with out := "" } :=
  ⟨h.context, h.cache, rfl⟩

theorem Ends.write (h : t.Ends before a b x y) (s : String) :
    t.Ends before a b (x.write s) (y.write s) :=
  ⟨h.alike.write s, h.left, h.right, h.blocks⟩

theorem Ends.storeBlock (h : t.Ends before a b x y) (name content : String) :
    t.Ends before a b (x.storeBlock name content) (y.storeBlock name content) :=
  ⟨h.alike.storeBlock name content, h.left, h.right, h.blocks.insert name content⟩

end Runs

end Likeness

/-- States at the same place but for the block mode are at the same place in any one mode. -/
theorem Run.place_withMode {run x : Run} {first : BlockMode}
    (h : x.context.place = (run.withMode first).context.place) (mode : BlockMode) :
    (x.withMode mode).context.place = (run.withMode mode).context.place := by
  simp only [Context.place, withMode, onContext, Context.Place.mk.injEq] at h ⊢
  exact ⟨h.1, trivial, h.2.2⟩

theorem Run.place_shallower {run x : Run} (h : x.context.place = run.deeper.context.place) :
    x.shallower.context.place = run.context.place := by
  simp only [Context.place, deeper, shallower, onContext, Context.Place.mk.injEq] at h ⊢
  exact ⟨h.1, h.2.1, by rw [h.2.2, Nat.add_sub_cancel]⟩

theorem Run.place_pop {run x : Run} {scope : Record Value}
    (h : x.context.place = (run.onContext fun ctx => ctx.push scope).context.place) :
    (x.onContext Context.pop).context.place = run.context.place := by
  simp only [Context.place, onContext, Context.push, Context.pop, Context.Place.mk.injEq] at h ⊢
  exact ⟨by rw [h.1, List.tail_cons], h.2⟩

theorem Run.place_fillBlock (run : Run) (name content : String) :
    (run.fillBlock name content).context.place = run.context.place := by
  rw [fillBlock]
  split <;> rfl

theorem Run.grows_fillBlock (run : Run) (name content : String) :
    run.context.blocks.Grows (run.fillBlock name content).context.blocks := by
  rw [fillBlock]
  split
  · exact .refl _
  · exact (Record.Grows.refl _).insert name content

/-- A state inside a scope has the names of the state outside, with the scope around them. -/
theorem Run.names_pop {run x : Run} {scope : Record Value}
    (h : x.context.place = (run.onContext fun ctx => ctx.push scope).context.place) :
    (x.onContext Context.pop).context.names.push scope = x.context.names := by
  simp only [Context.place, onContext, Context.push, Context.Place.mk.injEq] at h
  simp only [Context.names, Names.push, onContext, Context.pop, h.1, List.tail_cons]

namespace Likeness

variable {t : Likeness} {r₁ r₂ : Rendering} {f g : Rendering.Step} {before : String} {a b x y : Run}

theorem Ends.withMode {mode : BlockMode} (h : t.Alike before a b)
    (hx : t.Ends before (a.withMode mode) (b.withMode mode) x y) :
    t.Ends before a b (x.withMode a.context.mode) (y.withMode b.context.mode) := by
  refine ⟨?_, Run.place_withMode hx.left _, Run.place_withMode hx.right _, hx.blocks⟩
  rw [← h.context.mode]
  exact hx.alike.withMode _

theorem Ends.shallower (hx : t.Ends before a.deeper b.deeper x y) :
    t.Ends before a b x.shallower y.shallower :=
  ⟨hx.alike.shallower, Run.place_shallower hx.left, Run.place_shallower hx.right, hx.blocks⟩

theorem Relates.enterScope (sim : t.Relates r₁ r₂) (h : t.Alike before a b)
    (scope : Record Value) :
    t.Alike before (a.onContext fun ctx => ctx.push scope)
      (b.onContext fun ctx => ctx.push scope) :=
  ⟨{ h.context with names := sim.push scope h.context.names }, h.cache, h.out⟩

theorem Relates.leaveScope (sim : t.Relates r₁ r₂) {scope : Record Value}
    (hx : t.Ends before (a.onContext fun ctx => ctx.push scope)
      (b.onContext fun ctx => ctx.push scope) x y) :
    t.Ends before a b (x.onContext Context.pop) (y.onContext Context.pop) := by
  have names := hx.alike.context.names
  rw [← Run.names_pop hx.left, ← Run.names_pop hx.right] at names
  exact ⟨⟨{ hx.alike.context with names := sim.pop names }, hx.alike.cache, hx.alike.out⟩,
    Run.place_pop hx.left, Run.place_pop hx.right, hx.blocks⟩

theorem Relates.assigns (sim : t.Relates r₁ r₂) (h : t.Alike before a b) {name : String}
    (ht : t.target name) (value : Value) :
    t.Ends before a b (a.onContext fun ctx => ctx.assign name value)
      (b.onContext fun ctx => ctx.assign name value) :=
  ⟨⟨{ h.context with names := sim.assign value ht h.context.names }, h.cache, h.out⟩, rfl, rfl,
    .refl _⟩

theorem steps_ok : t.Steps (fun run => .ok run) (fun run => .ok run) := by
  intro before a b h
  exact .ok (.refl h)

theorem Steps.aside (hs : t.Steps f g) (h : t.Alike before a b) :
    Outcome.Matches t.excused (fun x y => x.1 = y.1 ∧ t.Ends before a b x.2 y.2)
      (Rendering.aside f a) (Rendering.aside g b) := by
  rw [Rendering.aside, Rendering.aside]
  apply (hs _ _ _ h.aside).bind
  intro x y hxy
  refine .ok ⟨?_, ⟨hxy.alike.context, hxy.alike.cache, h.out⟩, hxy.left, hxy.right, hxy.blocks⟩
  rw [hxy.alike.out, String.empty_append]

theorem Steps.forEach {f g : Nat → Value → Rendering.Step}
    (hs : ∀ index item, t.Steps (f index item) (g index item)) (items : List Value) :
    ∀ index, t.Steps (Rendering.forEach f index items) (Rendering.forEach g index items) := by
  induction items with
  | nil =>
    intro index before a b h
    exact .ok (.refl h)
  | cons item items ih =>
    intro index before a b h
    rw [Rendering.forEach_cons, Rendering.forEach_cons]
    apply (hs index item before a b h).bind
    intro x y hxy
    exact (ih (index + 1) before x y hxy.alike).mono fun _ _ => hxy.trans

theorem Relates.iteration (sim : t.Relates r₁ r₂) (hs : t.Steps f g) (spec : LoopSpec)
    (length index : Nat) (item : Value) :
    t.Steps (Rendering.renderIteration spec f length index item)
      (Rendering.renderIteration spec g length index item) := by
  intro before a b h
  apply (hs _ _ _ (sim.enterScope h _)).bind
  intro x y hxy
  exact .ok (sim.leaveScope hxy)

theorem Relates.renderLoop (sim : t.Relates r₁ r₂) {spec : LoopSpec}
    (he : ∀ e ∈ (NodeKind.loop spec).expressions, t.expression e) (hs : t.Steps f g) :
    t.Steps (r₁.renderLoop spec f) (r₂.renderLoop spec g) := by
  intro before a b h
  apply (sim.loopItems h he).bind_eq
  intro items
  exact Steps.forEach (sim.iteration hs spec items.length) items 0 before a b h

theorem Steps.renderBlock (hs : t.Steps f g) (name : String) :
    t.Steps (Rendering.renderBlock name f) (Rendering.renderBlock name g) := by
  intro before a b h
  rw [Rendering.renderBlock, Rendering.renderBlock, ← h.context.blocks]
  split
  · simp only [pure_bind, ← h.context.mode]
    split
    · exact .ok ((Ends.refl h).storeBlock name _)
    · exact .ok ((Ends.refl h).write _)
  · apply (hs.aside (h.withMode .output)).bind
    rintro ⟨content, x⟩ ⟨_, y⟩ ⟨rfl, hxy⟩
    have hxy := Ends.withMode h hxy
    rw [← h.context.mode] at hxy ⊢
    generalize a.context.mode = mode at hxy ⊢
    cases mode with
    | output => exact .ok (hxy.write content)
    | store => exact .ok (hxy.storeBlock name content)

/-- The steps into the trees of files, at one depth. -/
def Enters (t : Likeness) (r₁ r₂ : Rendering)
    (inner₁ inner₂ : Option (List Node → Rendering.Step)) : Prop :=
  ∀ path nodes, t.Admits nodes →
    t.Steps (r₁.enter inner₁ path nodes) (r₂.enter inner₂ path nodes)

variable {inner₁ inner₂ : Option (List Node → Rendering.Step)}

theorem Relates.renderInclude (sim : t.Relates r₁ r₂) (hin : Enters t r₁ r₂ inner₁ inner₂)
    {args : List Argument} (he : ∀ e ∈ (NodeKind.include args).expressions, t.expression e)
    {raw : String} (hr : t.reference raw) :
    t.Steps (r₁.renderInclude inner₁ args raw) (r₂.renderInclude inner₂ args raw) := by
  intro before a b h
  apply (sim.path h.context hr).bind
  rintro path _ ⟨rfl, hp⟩
  apply (sim.load hp h.cache).bind
  rintro ⟨nodes, c⟩ ⟨_, d⟩ ⟨rfl, hn, hc⟩
  have h := h.withCache hc
  apply (sim.evalArguments h he).bind_eq
  intro scope
  apply (hin path nodes hn _ _ _ (sim.enterScope h scope)).bind
  intro x y hxy
  have hxy := sim.leaveScope hxy
  exact .ok ⟨hxy.alike, hxy.left, hxy.right, hxy.blocks⟩

/-- The state in which the file of a layout is rendered is at the place of the layout, but for the
block mode. -/
theorem Ends.fillBlock {mode : BlockMode} (content : String)
    (hx : t.Ends before (a.withMode mode) (b.withMode mode) x y) :
    t.Ends before (a.withMode .output) (b.withMode .output)
      ((x.fillBlock "" content).withMode .output) ((y.fillBlock "" content).withMode .output) :=
  ⟨(hx.alike.fillBlock "" content).withMode .output,
    Run.place_withMode ((Run.place_fillBlock x "" content).trans hx.left) .output,
    Run.place_withMode ((Run.place_fillBlock y "" content).trans hx.right) .output,
    hx.blocks.trans (Run.grows_fillBlock x "" content)⟩

theorem Relates.renderLayout (sim : t.Relates r₁ r₂) (hin : Enters t r₁ r₂ inner₁ inner₂)
    {raw : String} (hr : t.reference raw) (hs : t.Steps f g) :
    t.Steps (r₁.renderLayout inner₁ raw f) (r₂.renderLayout inner₂ raw g) := by
  intro before a b h
  apply (sim.path h.context hr).bind
  rintro path _ ⟨rfl, hp⟩
  apply (sim.load hp h.cache).bind
  rintro ⟨nodes, c⟩ ⟨_, d⟩ ⟨rfl, hn, hc⟩
  have h := h.withCache hc
  apply (hs.aside (h.withMode .store)).bind
  rintro ⟨content, x⟩ ⟨_, y⟩ ⟨rfl, hxy⟩
  have filled := Ends.fillBlock content hxy
  apply (hin path nodes hn _ _ _ filled.alike).bind
  intro u v huv
  have whole := Ends.withMode h (filled.trans huv)
  exact .ok ⟨whole.alike, whole.left, whole.right, whole.blocks⟩

abbrev AdmitsNode (t : Likeness) : Node → Prop :=
  Node.Everywhere t.Permits

abbrev AdmitsOf (t : Likeness) : Option (List Node) → Prop :=
  Node.everywhereOf t.Permits

mutual

theorem Relates.renderNode (sim : t.Relates r₁ r₂) (hin : Enters t r₁ r₂ inner₁ inner₂) :
    ∀ {node : Node}, AdmitsNode t node →
      t.Steps (r₁.renderNode inner₁ node) (r₂.renderNode inner₂ node)
  | .mk kind line file children => by
    intro hn
    rw [AdmitsNode, Node.Everywhere] at hn
    rcases hn with ⟨⟨ht, he, hf⟩, hc⟩
    have inside := sim.renderChildren hin hc
    have branches := sim.renderBranchesOf hin hc
    intro before a b h
    rw [Rendering.renderNode, Rendering.renderNode]
    cases kind with
    | text s => exact .ok ((Ends.refl h).write s)
    | output o =>
      apply (sim.evalOutput h he).bind_eq
      intro value
      exact .ok ((Ends.refl h).write _)
    | assign name o =>
      apply (sim.evalOutput h he).bind_eq
      intro value
      exact .ok (sim.assigns h (ht name rfl) value)
    | «include» args =>
      cases file with
      | none => exact .ok (.refl h)
      | some raw => exact sim.renderInclude hin he (hf raw rfl) before a b h
    | layout =>
      cases file with
      | none => exact .ok (.refl h)
      | some raw => exact sim.renderLayout hin (hf raw rfl) inside before a b h
    | block name => exact inside.renderBlock name before a b h
    | conditional => exact branches before a b h
    | branch test negate => exact inside before a b h
    | loop spec => exact sim.renderLoop he inside before a b h

theorem Relates.renderChildren (sim : t.Relates r₁ r₂) (hin : Enters t r₁ r₂ inner₁ inner₂) :
    ∀ {children : Option (List Node)}, AdmitsOf t children →
      t.Steps (r₁.renderChildren inner₁ children) (r₂.renderChildren inner₂ children)
  | none => by
    intro _
    rw [Rendering.renderChildren, Rendering.renderChildren]
    exact steps_ok
  | some nodes => by
    intro hn
    rw [AdmitsOf, Node.everywhereOf] at hn
    rw [Rendering.renderChildren, Rendering.renderChildren]
    exact sim.renderNodes hin hn

theorem Relates.renderNodes (sim : t.Relates r₁ r₂) (hin : Enters t r₁ r₂ inner₁ inner₂) :
    ∀ {nodes : List Node}, t.Admits nodes →
      t.Steps (r₁.renderNodes inner₁ nodes) (r₂.renderNodes inner₂ nodes)
  | [] => by
    intro _
    rw [Rendering.renderNodes_nil, Rendering.renderNodes_nil]
    exact steps_ok
  | node :: rest => by
    intro hn
    rw [Admits, Node.everywhereAll] at hn
    have first := sim.renderNode hin hn.1
    have more := sim.renderNodes hin hn.2
    intro before a b h
    rw [Rendering.renderNodes_cons, Rendering.renderNodes_cons]
    apply (first before a b h).bind
    intro x y hxy
    exact (more before x y hxy.alike).mono fun _ _ => hxy.trans

theorem Relates.renderBranchesOf (sim : t.Relates r₁ r₂) (hin : Enters t r₁ r₂ inner₁ inner₂) :
    ∀ {children : Option (List Node)}, AdmitsOf t children →
      t.Steps (r₁.renderBranchesOf inner₁ children) (r₂.renderBranchesOf inner₂ children)
  | none => by
    intro _
    rw [Rendering.renderBranchesOf, Rendering.renderBranchesOf]
    exact steps_ok
  | some nodes => by
    intro hn
    rw [AdmitsOf, Node.everywhereOf] at hn
    rw [Rendering.renderBranchesOf, Rendering.renderBranchesOf]
    exact sim.renderBranches hin hn

theorem Relates.renderBranches (sim : t.Relates r₁ r₂) (hin : Enters t r₁ r₂ inner₁ inner₂) :
    ∀ {nodes : List Node}, t.Admits nodes →
      t.Steps (r₁.renderBranches inner₁ nodes) (r₂.renderBranches inner₂ nodes)
  | [] => by
    intro _
    rw [Rendering.renderBranches, Rendering.renderBranches]
    exact steps_ok
  | .mk kind line file children :: rest => by
    intro hn
    rw [Admits, Node.everywhereAll, Node.Everywhere] at hn
    rcases hn with ⟨⟨⟨ht, he, hf⟩, hc⟩, hrest⟩
    have inside := sim.renderChildren hin hc
    have more := sim.renderBranches hin hrest
    intro before a b h
    cases kind with
    | branch test negate =>
      rw [Rendering.renderBranches_branch, Rendering.renderBranches_branch]
      apply (sim.taken h he negate).bind_eq
      intro found
      cases found with
      | true => exact inside before a b h
      | false => exact more before a b h
    | _ =>
      rw [Rendering.renderBranches_other _ _ rfl, Rendering.renderBranches_other _ _ rfl]
      exact more before a b h

end

theorem enters_none (hl : r₁.options.maxIncludeDepth = r₂.options.maxIncludeDepth) :
    Enters t r₁ r₂ none none := by
  intro path nodes _ before a b _
  rw [Rendering.enter, Rendering.enter, hl]
  exact .same _

theorem enters_some {f g : List Node → Rendering.Step}
    (hs : ∀ nodes, t.Admits nodes → t.Steps (f nodes) (g nodes)) :
    Enters t r₁ r₂ (some f) (some g) := by
  intro path nodes hn before a b h
  rw [Rendering.enter, Rendering.enter]
  apply (hs nodes hn _ _ _ h.deeper).bind
  intro x y hxy
  exact .ok hxy.shallower

/-- One level deeper, files are entered alike if they are from there on. -/
theorem Relates.enters_succ (sim : t.Relates r₁ r₂) {levels more : Nat}
    (hin : Enters t r₁ r₂ (r₁.inner levels) (r₂.inner more)) :
    Enters t r₁ r₂ (r₁.inner (levels + 1)) (r₂.inner (more + 1)) := by
  apply enters_some
  intro nodes hn
  rw [Rendering.renderWithin_eq, Rendering.renderWithin_eq]
  exact sim.renderNodes hin hn

/-- Files are entered alike at every depth, if the two limits of the depth are the same. -/
theorem Relates.enters (sim : t.Relates r₁ r₂)
    (hl : r₁.options.maxIncludeDepth = r₂.options.maxIncludeDepth) (levels : Nat) :
    Enters t r₁ r₂ (r₁.inner levels) (r₂.inner levels) := by
  induction levels with
  | zero => exact enters_none hl
  | succ levels ih => exact sim.enters_succ ih

/-- Files are entered alike where the first rendering has fewer levels left, if it is excused for
running out of them. -/
theorem Relates.enters_of_le (sim : t.Relates r₁ r₂)
    (cut : ∀ path, t.excused (.fault (.includeDepth r₁.options.maxIncludeDepth path)))
    {levels more : Nat} (h : levels ≤ more) :
    Enters t r₁ r₂ (r₁.inner levels) (r₂.inner more) := by
  induction levels generalizing more with
  | zero =>
    intro path nodes _ before a b _
    exact .excuse (cut path) _
  | succ levels ih =>
    obtain ⟨more, rfl⟩ := Nat.exists_eq_add_of_lt h
    exact sim.enters_succ (ih (Nat.le_add_right levels more))

theorem Relates.renderWithin (sim : t.Relates r₁ r₂)
    (hl : r₁.options.maxIncludeDepth = r₂.options.maxIncludeDepth) (levels : Nat)
    {nodes : List Node} (hn : t.Admits nodes) :
    t.Steps (r₁.renderWithin levels nodes) (r₂.renderWithin levels nodes) := by
  rw [Rendering.renderWithin_eq, Rendering.renderWithin_eq]
  exact sim.renderNodes (sim.enters hl levels) hn

theorem Relates.renderText_of_enters (sim : t.Relates r₁ r₂)
    (hin : Enters t r₁ r₂ (r₁.inner r₁.options.maxIncludeDepth)
      (r₂.inner r₂.options.maxIncludeDepth))
    {nodes : List Node} (hn : t.Admits nodes) {data₁ data₂ : Value}
    (hd : t.names ⟨data₁, [], []⟩ ⟨data₂, [], []⟩) (hc : t.caches [] []) :
    Outcome.Matches t.excused (· = ·) (r₁.renderText nodes data₁) (r₂.renderText nodes data₂) := by
  have start : t.Alike "" ⟨.initial data₁, [], ""⟩ ⟨.initial data₂, [], ""⟩ :=
    ⟨⟨hd, rfl, rfl, rfl⟩, hc, rfl⟩
  have depth (data : Value) : (Context.initial data).depth = 0 := rfl
  rw [Rendering.renderText, Rendering.renderText, Rendering.render, Rendering.render, depth, depth,
    Nat.sub_zero, Nat.sub_zero, Rendering.renderWithin_eq, Rendering.renderWithin_eq]
  apply (sim.renderNodes hin hn _ _ _ start).bind
  intro x y hxy
  exact .ok (by rw [hxy.alike.out, String.empty_append])

/-- Trees are rendered to the same text, or fail in the same way. -/
theorem Relates.renderText (sim : t.Relates r₁ r₂)
    (hl : r₁.options.maxIncludeDepth = r₂.options.maxIncludeDepth) {nodes : List Node}
    (hn : t.Admits nodes) {data₁ data₂ : Value}
    (hd : t.names ⟨data₁, [], []⟩ ⟨data₂, [], []⟩) (hc : t.caches [] []) :
    Outcome.Matches t.excused (· = ·) (r₁.renderText nodes data₁)
      (r₂.renderText nodes data₂) := by
  have hin := sim.enters hl r₁.options.maxIncludeDepth
  nth_rewrite 2 [hl] at hin
  exact sim.renderText_of_enters hin hn hd hc

/-- Renderings in which names stand for the same, whatever is rendered. -/
def plain (excused : Failure RenderFault → Prop) (caches : PartialCache → PartialCache → Prop) :
    Likeness where
  excused := excused
  names := (· = ·)
  caches := caches
  target _ := True
  expression _ := True
  reference _ := True
  path _ := True

section Plain

variable {excused : Failure RenderFault → Prop} {caches : PartialCache → PartialCache → Prop}

theorem plain_permits (kind : NodeKind) (file : Option String) :
    (plain excused caches).Permits kind file :=
  ⟨fun _ _ => trivial, fun _ _ => trivial, fun _ _ => trivial⟩

theorem plain_admits (nodes : List Node) : (plain excused caches).Admits nodes :=
  Node.everywhereAll_of_forall plain_permits nodes

theorem plain_relates {r₁ r₂ : Rendering} (root : r₁.options.root = r₂.options.root)
    (extname : r₁.options.extname = r₂.options.extname)
    (values : ∀ {a b : Context}, (∀ name, a.get? name = b.get? name) → ∀ e : Expr,
      Outcome.Matches excused (· = ·) (e.eval r₁.options.strictVariables a)
        (e.eval r₂.options.strictVariables b))
    (filter : ∀ name value args, Outcome.Matches excused (· = ·)
      (applyFilter r₁.options.strictFilters r₁.options.now name value args)
      (applyFilter r₂.options.strictFilters r₂.options.now name value args))
    (load : ∀ p c d, caches c d →
      Outcome.Matches excused (fun x y => x.1 = y.1 ∧ caches x.2 y.2) (r₁.load p c)
        (r₂.load p d)) :
    (plain excused caches).Relates r₁ r₂ where
  expression h _ := values (Context.get?_of_names h.names) _
  filter := filter
  path h _ :=
    (Rendering.filePath_matches root extname (values (Context.get?_of_names h.names)) _).mono
      fun _ _ same => ⟨same, trivial⟩
  load {p c d} _ hc := (load p c d hc).mono fun x _ hx => ⟨hx.1, plain_admits x.1, hx.2⟩
  push scope h := congrArg (Names.push · scope) h
  pop h := Names.push_inj h
  assign value _ h := congrArg (Names.assign · _ value) h

end Plain

end Likeness
end TemplateSite
