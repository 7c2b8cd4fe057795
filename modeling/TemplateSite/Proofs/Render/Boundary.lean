import TemplateSite.Proofs.Render.Caching
import TemplateSite.Proofs.Render.Depth
import TemplateSite.Proofs.Render.Faults
import TemplateSite.Proofs.Render.Lines

/-!
# The boundary of the depth

On a route each page names the next one, by an include or by a layout, which count alike. A route as
long as the limit of the depth is rendered to its end; on a longer one the first page past the limit
is the fault, and a route that comes back to where it was is longer than every limit.
-/
namespace TemplateSite

/-- The two tags that name a file to be rendered. -/
inductive Link where
  | «include»
  | layout

/-- A page on a route: a text, an include or a layout, and another text. The target is the path of
the page that is named. -/
structure Hop where
  before : List Char
  link : Link
  reference : String
  target : Path
  after : List Char

namespace Hop

/-- The tree of a page, with all lines forgotten. -/
def tree (hop : Hop) : List Node :=
  Node.ofText 0 hop.before ++
    match hop.link with
    | .include => .mk (.include []) 0 (some hop.reference) none :: Node.ofText 0 hop.after
    | .layout => [.mk .layout 0 (some hop.reference) (some (Node.ofText 0 hop.after))]

/-- The state in which the page that is named is entered: in an empty scope by an include, and by a
layout with the text after it as the content of the unnamed block. -/
def approach (hop : Hop) (run : Run) : Run :=
  let run := run.write (String.ofList hop.before)
  match hop.link with
  | .include => run.onContext fun ctx => ctx.push []
  | .layout => run.fillBlock "" (String.ofList hop.after)

/-- What is written after the page that is named: nothing after a layout, since the text there is
content of the unnamed block. -/
def rest (hop : Hop) : String :=
  match hop.link with
  | .include => String.ofList hop.after
  | .layout => ""

end Hop

/-- From a page to another one, past the pages between them: each names the next one by a reference
that leads to a file which compiles to the tree of that page. -/
inductive Route (options : Options) (library : Library) (data : Value) :
    List Node → List Hop → List Node → Prop where
  | here {nodes : List Node} : Route options library data nodes [] nodes
  | next {nodes more last : List Node} {hop : Hop} {hops : List Hop} {content : String}
    (tree : Node.unlinedAll nodes = hop.tree)
    (path : Rendering.filePath ⟨options, .direct library.read⟩ ⟨.initial data, [], ""⟩
      hop.reference = .ok hop.target)
    (found : library.find? hop.target = some content) (compiled : compile content = .ok more)
    (onward : Route options library data more hops last) :
    Route options library data nodes (hop :: hops) last

/-- The state in which the page after these ones is rendered. -/
def arrive (hops : List Hop) (run : Run) : Run :=
  hops.foldl (fun run hop => (hop.approach run).deeper) run

/-- What these pages write after the page to which they lead. -/
def trail : List Hop → String
  | [] => ""
  | hop :: hops => trail hops ++ hop.rest

/-- A state in which blocks are written out and names stand for the data. -/
structure Run.Clear (run : Run) (data : Value) : Prop where
  names : ∀ name, run.context.get? name = (Context.initial data).get? name
  mode : run.context.mode = .output

theorem Run.context_fillBlock (run : Run) (name content : String) :
    ∃ blocks, (run.fillBlock name content).context = { run.context with blocks } := by
  rw [fillBlock]
  split
  · exact ⟨_, rfl⟩
  · exact ⟨_, rfl⟩

theorem Run.Clear.approach {run : Run} {data : Value} (h : run.Clear data) (hop : Hop) :
    (hop.approach run).deeper.Clear data := by
  rcases hop with ⟨before, link, reference, target, after⟩
  cases link with
  | «include» => exact ⟨h.names, h.mode⟩
  | layout =>
    rcases Run.context_fillBlock (run.write (String.ofList before)) "" (String.ofList after) with
      ⟨blocks, hb⟩
    constructor
    · intro name
      rw [← h.names name]
      simp only [Hop.approach, Run.deeper, Run.onContext, hb]
      rfl
    · simp only [Hop.approach, Run.deeper, Run.onContext, hb]
      exact h.mode

theorem depth_arrive (hops : List Hop) (run : Run) :
    (arrive hops run).context.depth = run.context.depth + hops.length := by
  induction hops generalizing run with
  | nil => rfl
  | cons hop hops ih =>
    have once : (hop.approach run).deeper.context.depth = run.context.depth + 1 := by
      rcases hop with ⟨before, link, reference, target, after⟩
      cases link with
      | «include» => rfl
      | layout =>
        have place := (run.write (String.ofList before)).place_fillBlock "" (String.ofList after)
        exact congrArg (fun place => place.depth + 1) place
    rw [arrive, List.foldl_cons, ← arrive, ih, once, List.length_cons]
    omega

section Steps

variable {options : Options} {library : Library} {data : Value} {run : Run}
  {inner : Option (List Node → Rendering.Step)} {nodes : List Node} {reference : String}
  {target : Path} {content : String}

theorem load_direct (found : library.find? target = some content)
    (compiled : compile content = .ok nodes) (cache : PartialCache) :
    Loader.direct library.read target cache = .ok (nodes, cache) := by
  rw [Loader.direct, Library.loadAnew_eq_ok_iff.mpr ⟨content, found, compiled⟩]
  rfl

theorem renderInclude_direct (found : library.find? target = some content)
    (compiled : compile content = .ok nodes) :
    let r : Rendering := ⟨options, .direct library.read⟩
    r.filePath run reference = .ok target →
      r.renderInclude inner [] reference run =
        r.enter inner target nodes (run.onContext fun ctx => ctx.push []) >>= fun after =>
          .ok (after.onContext Context.pop) := by
  intro r path
  simp only [Rendering.renderInclude, path]
  change (Loader.direct library.read target run.cache >>= _) = _
  rw [load_direct found compiled]
  rfl

/-- A layout around a text enters the page that it names after the text is stored. -/
theorem renderLayout_direct (found : library.find? target = some content)
    (compiled : compile content = .ok nodes) (mode : run.context.mode = .output) (line : Nat)
    (t : List Char) :
    let r : Rendering := ⟨options, .direct library.read⟩
    r.filePath run reference = .ok target →
      r.renderLayout inner reference (r.renderNodes inner (Node.ofText line t)) run =
        r.enter inner target nodes (run.fillBlock "" (String.ofList t)) >>= fun after =>
          .ok (after.withMode .output) := by
  intro r path
  have body : Rendering.aside (r.renderNodes inner (Node.ofText line t)) (run.withMode .store) =
      .ok (String.ofList t, run.withMode .store) := by
    rw [Rendering.aside, r.renderNodes_ofText]
    change Except.ok ("" ++ String.ofList t, run.withMode .store) = _
    rw [String.empty_append]
  have filled : ((run.withMode .store).fillBlock "" (String.ofList t)).withMode .output =
      run.fillBlock "" (String.ofList t) := by
    rcases run with ⟨⟨_, _, _, blocks, _, _⟩, cache, out⟩
    cases mode
    simp only [Run.fillBlock, Run.withMode, Run.onContext]
    cases blocks.get? "" <;> rfl
  simp only [Rendering.renderLayout, path]
  change (Loader.direct library.read target run.cache >>= _) = _
  rw [load_direct found compiled]
  change (Rendering.aside _ (run.withMode .store) >>= _) = _
  rw [body, ← filled, ← mode]
  rfl

/-- A page writes its first text, enters the page that it names, and goes on after it. -/
theorem renderNodes_hop {hop : Hop} {more : List Node} (clear : run.Clear data)
    (tree : Node.unlinedAll nodes = hop.tree)
    (path : Rendering.filePath ⟨options, .direct library.read⟩ ⟨.initial data, [], ""⟩
      hop.reference = .ok hop.target)
    (found : library.find? hop.target = some content) (compiled : compile content = .ok more) :
    let r : Rendering := ⟨options, .direct library.read⟩
    (r.renderNodes inner nodes run).map Run.out =
      (r.enter inner hop.target more (hop.approach run)).map fun last => last.out ++ hop.rest := by
  intro r
  let start := run.write (String.ofList hop.before)
  have mode : start.context.mode = .output := clear.mode
  have path : r.filePath start hop.reference = .ok hop.target := by
    rw [← path]
    exact Rendering.filePath_congr rfl clear.names _
  have written (rest : List Node) :
      r.renderNodes inner (Node.ofText 0 hop.before ++ rest) run =
        r.renderNodes inner rest start := by
    rw [r.renderNodes_append, r.renderNodes_ofText]
    rfl
  rw [← r.renderNodes_unlined, tree, Hop.tree, written, Hop.approach, Hop.rest]
  cases hop.link with
  | «include» =>
    rw [r.renderNodes_cons, r.renderNodes_ofText, Rendering.renderNode]
    change (r.renderInclude inner [] hop.reference start >>= _).map _ = _
    rw [renderInclude_direct found compiled path]
    cases r.enter inner hop.target more (start.onContext fun ctx => ctx.push []) <;> rfl
  | layout =>
    rw [r.renderNodes_singleton, Rendering.renderNode, Rendering.renderChildren]
    change (r.renderLayout inner hop.reference _ start).map _ = _
    rw [renderLayout_direct found compiled mode 0 hop.after path]
    cases r.enter inner hop.target more (start.fillBlock "" (String.ofList hop.after)) with
    | error failure => rfl
    | ok last => exact congrArg Except.ok String.append_empty.symm

variable {r : Rendering}

theorem map_enter (levels : Nat) (path : Path) (nodes : List Node) (s : String) :
    (r.enter (r.inner (levels + 1)) path nodes run).map (fun last => last.out ++ s) =
      ((r.renderNodes (r.inner levels) nodes run.deeper).map Run.out).map (· ++ s) := by
  rw [Rendering.inner, Rendering.enter, Rendering.renderWithin_eq]
  cases r.renderNodes (r.inner levels) nodes run.deeper <;> rfl

end Steps

namespace Route

variable {options : Options} {library : Library} {data : Value} {nodes last : List Node}
  {hops : List Hop} {levels : Nat} {run : Run}

theorem renderNodes (route : Route options library data nodes hops last) (clear : run.Clear data)
    (h : hops.length ≤ levels) :
    let r : Rendering := ⟨options, .direct library.read⟩
    (r.renderNodes (r.inner levels) nodes run).map Run.out =
      (r.renderNodes (r.inner (levels - hops.length)) last (arrive hops run)).map fun after =>
        after.out ++ trail hops := by
  intro r
  induction route generalizing levels run with
  | here =>
    have same : (fun after : Run => after.out ++ trail []) = Run.out := by
      funext after
      exact String.append_empty
    rw [same]
    rfl
  | @next nodes more last hop hops content tree path found compiled onward ih =>
    obtain ⟨levels, rfl⟩ : ∃ n, levels = n + 1 := ⟨levels - 1, by simp at h; omega⟩
    rw [renderNodes_hop clear tree path found compiled, map_enter,
      ih (clear.approach hop) (Nat.le_of_succ_le_succ h), List.length_cons, Nat.add_sub_add_right]
    change _ = (r.renderNodes _ last (arrive hops (hop.approach run).deeper)).map _
    cases r.renderNodes (r.inner (levels - hops.length)) last
      (arrive hops (hop.approach run).deeper) with
    | error failure => rfl
    | ok after => exact congrArg Except.ok (String.append_assoc ..)

/-- With too few levels the first page that has none left is the fault. -/
theorem renderNodes_exceeds (route : Route options library data nodes hops last)
    (clear : run.Clear data) (h : levels < hops.length) :
    let r : Rendering := ⟨options, .direct library.read⟩
    (r.renderNodes (r.inner levels) nodes run).map Run.out =
      Outcome.fault (.includeDepth options.maxIncludeDepth hops[levels].target) := by
  intro r
  induction route generalizing levels run with
  | here => cases h
  | @next nodes more last hop hops content tree path found compiled onward ih =>
    rw [renderNodes_hop clear tree path found compiled]
    cases levels with
    | zero => rfl
    | succ levels =>
      rw [map_enter, ih (clear.approach hop) (Nat.lt_of_succ_lt_succ h)]
      rfl

theorem append {middle : List Node} {more : List Hop}
    (route : Route options library data nodes hops middle)
    (onward : Route options library data middle more last) :
    Route options library data nodes (hops ++ more) last := by
  induction route with
  | here => exact onward
  | next tree path found compiled _ ih => exact .next tree path found compiled (ih onward)

theorem limited (route : Route options library data nodes hops last) (limit : Nat) :
    Route (options.limited limit) library data nodes hops last := by
  induction route with
  | here => exact .here
  | next tree path found compiled _ ih => exact .next tree path found compiled ih

/-- A route that comes back can be followed as often as one likes. -/
theorem exists_longer (round : Route options library data nodes hops nodes) (moves : hops ≠ [])
    (n : Nat) : ∃ more, n < more.length ∧ Route options library data nodes more nodes := by
  induction n with
  | zero => exact ⟨hops, List.length_pos_iff.mpr moves, round⟩
  | succ n ih =>
    rcases ih with ⟨more, longer, route⟩
    have some_hop := List.length_pos_iff.mpr moves
    exact ⟨hops ++ more, by simp; omega, round.append route⟩

end Route

theorem renderTemplate_eq_map {options : Options} {library : Library} (nodes : List Node)
    (data : Value) :
    renderTemplate options library.read nodes data =
      ((Rendering.mk options (.direct library.read)).renderNodes
        ((Rendering.mk options (.direct library.read)).inner options.maxIncludeDepth) nodes
        ⟨.initial data, [], ""⟩).map Run.out := by
  rw [renderTemplate, library.renderText_cached, Rendering.renderText, Rendering.render,
    Rendering.renderWithin_eq]
  change (Rendering.renderNodes _ (Rendering.inner _ options.maxIncludeDepth) _ _ >>= _) = _
  cases Rendering.renderNodes _ (Rendering.inner _ options.maxIncludeDepth) nodes _ <;> rfl

/-- On a route that is not longer than the limit of the depth, the page at its end is rendered in
the state in which it is reached. The texts before the tags are written by then, and the text after
a layout has become the content of the unnamed block; the texts after the includes are written after
the page. Without includes and layouts that page runs into no fault of a file. On a longer route the
fault is the first page past the limit. A route into a round is too long for every limit. -/
theorem renderTemplate_route {options : Options} {library : Library} {data : Value}
    {nodes last : List Node} {hops : List Hop}
    (route : Route options library data nodes hops last) :
    (hops.length ≤ options.maxIncludeDepth →
      renderTemplate options library.read nodes data =
        ((Rendering.mk options (.direct library.read)).render last
          (arrive hops ⟨.initial data, [], ""⟩)).map (fun after => after.out ++ trail hops) ∧
      (Node.everywhereAll (fun kind _ => kind.loads = false) last →
        ∀ f, renderTemplate options library.read nodes data = .fault f → f.ofFile = false)) ∧
    (∀ h : options.maxIncludeDepth < hops.length,
      renderTemplate options library.read nodes data =
        .fault (.includeDepth options.maxIncludeDepth hops[options.maxIncludeDepth].target)) ∧
    ∀ round, Route options library data last round last → round ≠ [] → ∀ limit, ∃ path,
      renderTemplate (options.limited limit) library.read nodes data =
        .fault (.includeDepth limit path) := by
  have clear : (Run.mk (.initial data) [] "").Clear data := ⟨fun _ => rfl, rfl⟩
  refine ⟨?_, ?_, ?_⟩
  · intro h
    have depth : (arrive hops ⟨.initial data, [], ""⟩).context.depth = hops.length := by
      rw [depth_arrive]
      exact Nat.zero_add _
    have reached := (renderTemplate_eq_map nodes data).trans (route.renderNodes clear h)
    constructor
    · rw [reached, Rendering.render, Rendering.renderWithin_eq, depth]
    · intro unloading
      rw [reached]
      exact (Rendering.renderNodes_local _ unloading _).map _
  · intro h
    rw [renderTemplate_eq_map]
    exact route.renderNodes_exceeds clear h
  · intro round back moves limit
    rcases back.exists_longer moves limit with ⟨more, longer, again⟩
    have h : limit < (hops ++ more).length := by
      rw [List.length_append]
      omega
    refine ⟨(hops ++ more)[limit].target, ?_⟩
    rw [renderTemplate_eq_map]
    exact ((route.append again).limited limit).renderNodes_exceeds clear h

/-- An include and a layout: two levels are enough, and one is not. The page of the layout has a
block for the texts around it. A file that includes itself is too deep for every limit. -/
theorem renderTemplate_route_of_two :
    let library : Library := ⟨[(⟨"b.liquid"⟩, "3\x7b% layout 'c' %\x7d4"),
      (⟨"c.liquid"⟩, "5\x7b% block %\x7d\x7b% endblock %\x7d6"),
      (⟨"d.liquid"⟩, "7\x7b% include 'd' %\x7d")]⟩
    ∃ first round, compile "1\x7b% include 'b' %\x7d2" = .ok first ∧
      compile "7\x7b% include 'd' %\x7d" = .ok round ∧
      renderTemplate (Options.usual.limited 2) library.read first .nil = .ok "135462" ∧
      renderTemplate (Options.usual.limited 1) library.read first .nil =
        .fault (.includeDepth 1 ⟨"c.liquid"⟩) ∧
      ∀ limit, ∃ path, renderTemplate (Options.usual.limited limit) library.read round .nil =
        .fault (.includeDepth limit path) := by
  intro library
  let first : List Node :=
    [.leaf (.text "1") 1, .mk (.include []) 1 (some "'b'") none, .leaf (.text "2") 1]
  let second : List Node :=
    [.leaf (.text "3") 1, .mk .layout 1 (some "'c'") (some [.leaf (.text "4") 1])]
  let third : List Node :=
    [.leaf (.text "5") 1, .mk (.block "") 1 none (some []), .leaf (.text "6") 1]
  let round : List Node := [.leaf (.text "7") 1, .mk (.include []) 1 (some "'d'") none]
  let toSecond : Hop := ⟨['1'], .include, "'b'", ⟨"b.liquid"⟩, ['2']⟩
  let toThird : Hop := ⟨['3'], .layout, "'c'", ⟨"c.liquid"⟩, ['4']⟩
  let back : Hop := ⟨['7'], .include, "'d'", ⟨"d.liquid"⟩, []⟩
  have compiledFirst : compile "1\x7b% include 'b' %\x7d2" = .ok first := by
    subst first
    with_unfolding_all rfl
  have compiledSecond : compile "3\x7b% layout 'c' %\x7d4" = .ok second := by
    subst second
    with_unfolding_all rfl
  have compiledThird : compile "5\x7b% block %\x7d\x7b% endblock %\x7d6" = .ok third := by
    subst third
    with_unfolding_all rfl
  have compiledRound : compile "7\x7b% include 'd' %\x7d" = .ok round := by
    subst round
    with_unfolding_all rfl
  have route : Route .usual library .nil first [toSecond, toThird] third :=
    .next (by simp [first, toSecond, Hop.tree, Node.ofText, Node.unlined, Node.unlinedOf,
        Node.leaf]) (by decide +kernel) (by decide +kernel) compiledSecond
      (.next (by simp [second, toThird, Hop.tree, Node.ofText, Node.unlined, Node.unlinedOf,
        Node.leaf]) (by decide +kernel) (by decide +kernel) compiledThird .here)
  have again : Route .usual library .nil round [back] round :=
    .next (by simp [round, back, Hop.tree, Node.ofText, Node.unlined, Node.unlinedOf, Node.leaf])
      (by decide +kernel) (by decide +kernel) compiledRound .here
  refine ⟨first, round, compiledFirst, compiledRound, ?_, ?_, ?_⟩
  · have rendered := ((renderTemplate_route (route.limited 2)).1 (by decide)).1
    rw [rendered]
    exact toOption_eq_some_iff.mp (by decide +kernel)
  · exact (renderTemplate_route (route.limited 1)).2.1 (by decide)
  · exact (renderTemplate_route again).2.2 [back] again (by simp)

/-- A page at the end of a route fails where a variable in it is undefined. -/
theorem renderTemplate_route_of_undefined :
    let options := { Options.usual with strictVariables := true }
    let library : Library := ⟨[(⟨"b.liquid"⟩, "\x7b\x7b x \x7d\x7d")]⟩
    ∃ nodes last hop, compile "a\x7b% include 'b' %\x7dc" = .ok nodes ∧
      Route options library .emptyObject nodes [hop] last ∧ [hop].length ≤ options.maxIncludeDepth ∧
      Node.everywhereAll (fun kind _ => kind.loads = false) last ∧
      renderTemplate options library.read nodes .emptyObject = .fault (.undefinedVariable "x") := by
  intro options library
  let nodes : List Node :=
    [.leaf (.text "a") 1, .mk (.include []) 1 (some "'b'") none, .leaf (.text "c") 1]
  let last : List Node := [.leaf (.output ⟨.path "x" [], []⟩) 1]
  let hop : Hop := ⟨['a'], .include, "'b'", ⟨"b.liquid"⟩, ['c']⟩
  have compiled : compile "a\x7b% include 'b' %\x7dc" = .ok nodes := by
    subst nodes
    with_unfolding_all rfl
  have there : compile "\x7b\x7b x \x7d\x7d" = .ok last := by
    subst last
    with_unfolding_all rfl
  have route : Route options library .emptyObject nodes [hop] last :=
    .next (by simp [nodes, hop, Hop.tree, Node.ofText, Node.unlined, Node.unlinedOf, Node.leaf])
      (by decide +kernel) (by decide +kernel) there .here
  exact ⟨nodes, last, hop, compiled, route, by decide, by decide +kernel, by decide +kernel⟩

end TemplateSite
