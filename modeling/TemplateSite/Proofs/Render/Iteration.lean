import TemplateSite.Proofs.Render.Caching

/-!
# Iterations of a loop

An iteration of a loop sees the data together with the item and what the loop tells about the
iteration. If nothing is assigned, an iteration leaves nothing to the next one but the blocks that
layouts stored in it. So where nothing was stored, a loop writes what its body writes for each item
alone, and where a layout stored blocks, the next iteration shows them again.
-/
namespace TemplateSite

/-- The data that an iteration sees: the fields of the data, the item, and what the loop tells about
the iteration. -/
def Rendering.iterationData (spec : LoopSpec) (item : Value) (index length : Nat) (data : Value) :
    Value :=
  let fields := match data with
    | .object fields => fields
    | _ => []
  .object ((Record.insert spec.item item fields).insert "forloop" (loopInfo index length))

/-- A node that gives no name a value. -/
def Node.AssignsNothing (kind : NodeKind) (_ : Option String) : Prop :=
  kind.target? = none

instance (kind : NodeKind) (file : Option String) : Decidable (Node.AssignsNothing kind file) :=
  inferInstanceAs (Decidable (kind.target? = none))

/-- No file of the library that compiles assigns anything. -/
def Library.AssignsNothing (library : Library) : Prop :=
  ∀ path content nodes, library.find? path = some content → compile content = .ok nodes →
    Node.everywhereAll Node.AssignsNothing nodes

theorem Library.assignsNothing_of_files {library : Library}
    (h : ∀ file ∈ library.files, (compile file.2).toOption.all fun nodes =>
      decide (Node.everywhereAll Node.AssignsNothing nodes)) : library.AssignsNothing := by
  intro path content nodes found compiled
  rcases Option.map_eq_some_iff.mp found with ⟨file, there, rfl⟩
  have all := h file (List.mem_of_find?_eq_some there)
  rw [toOption_eq_some_iff.mpr compiled, Option.all_some, decide_eq_true_eq] at all
  exact all

/-- If rendering the nodes on the data succeeds, it leaves no blocks stored. -/
def Rendering.StoresNothing (r : Rendering) (nodes : List Node) (data : Value) : Prop :=
  ∀ last, r.render nodes ⟨.initial data, [], ""⟩ = .ok last → last.context.blocks = []

/-- What names stand for inside an iteration, and what they stand for on its data alone. -/
structure Names.Within (data alone : Value) (scope : Record Value) (m n : Names) : Prop where
  data : m.data = data
  alone : n.data = alone
  unassigned : m.globals = []
  unassignedAlone : n.globals = []
  scopes : m.scopes = n.scopes ++ [scope]

theorem Context.inScopes?_singleton (name : String) (scope : Record Value) :
    inScopes? name [scope] = scope.get? name := by
  rw [inScopes?]
  cases scope.get? name <;> rfl

/-- The data of an iteration gives names what the scope of the iteration gives them, and the data
after that. -/
theorem Rendering.inData?_iterationData (spec : LoopSpec) (item : Value) (index length : Nat)
    (data : Value) (name : String) :
    Context.inData? name (iterationData spec item index length data) =
      ((loopScope spec.item item index length).get? name).or (Context.inData? name data) := by
  have fields : ∀ fields : Record Value, Record.get? name
      ((Record.insert spec.item item fields).insert "forloop" (loopInfo index length)) =
      ((loopScope spec.item item index length).get? name).or (Record.get? name fields) := by
    intro fields
    change _ = (Record.get? name ((Record.insert spec.item item []).insert "forloop" _)).or _
    rw [Record.get?_insert, Record.get?_insert, Record.get?_insert, Record.get?_insert]
    split
    · rfl
    · split <;> rfl
  cases data with
  | object given => exact fields given
  | _ => exact fields []

section Alone

variable {options : Options} {library : Library} {data alone : Value} {scope : Record Value}

theorem Names.Within.get?_eq {a b : Context}
    (adds : ∀ name, Context.inData? name alone = (scope.get? name).or (Context.inData? name data))
    (h : Names.Within data alone scope a.names b.names) (name : String) :
    a.get? name = b.get? name := by
  have scopes : a.scopes = b.scopes ++ [scope] := h.scopes
  have unassigned : a.globals = [] := h.unassigned
  have unassignedAlone : b.globals = [] := h.unassignedAlone
  have here : a.data = data := h.data
  have there : b.data = alone := h.alone
  rw [Context.get?, Context.get?, scopes, Context.inScopes?_append, Context.inScopes?_singleton,
    unassigned, unassignedAlone, here, there, adds]
  cases Context.inScopes? name b.scopes with
  | some v => rfl
  | none => cases scope.get? name <;> rfl

theorem Names.Within.push {m n : Names} (h : Names.Within data alone scope m n)
    (inside : Record Value) : Names.Within data alone scope (m.push inside) (n.push inside) :=
  { h with scopes := congrArg (inside :: ·) h.scopes }

theorem Names.Within.pop {m n : Names} {inside : Record Value}
    (h : Names.Within data alone scope (m.push inside) (n.push inside)) :
    Names.Within data alone scope m n :=
  { h with scopes := (List.cons.inj h.scopes).2 }

def iterating (data alone : Value) (scope : Record Value) : Likeness where
  excused _ := False
  names := Names.Within data alone scope
  caches _ _ := True
  target _ := False
  expression _ := True
  reference _ := True
  path _ := True

theorem iterating_admits {nodes : List Node}
    (h : Node.everywhereAll Node.AssignsNothing nodes) :
    (iterating data alone scope).Admits nodes := by
  refine Node.everywhereAll_both ?_ h h
  intro kind file hk _
  refine ⟨?_, fun _ _ => trivial, fun _ _ => trivial⟩
  intro name hn
  rw [hk] at hn
  cases hn

/-- Rendering with the files of the library, each read and compiled whenever it is needed. -/
def Library.rendering (library : Library) (options : Options) : Rendering :=
  ⟨options, .direct library.read⟩

theorem iterating_relates (files : library.AssignsNothing)
    (adds : ∀ name, Context.inData? name alone =
      (scope.get? name).or (Context.inData? name data)) :
    (iterating data alone scope).Relates (library.rendering options)
      (library.rendering options) where
  expression h _ := .of_eq (Expr.eval_congr (h.names.get?_eq adds) _) fun _ => rfl
  filter _ _ _ := .refl _ _
  path h _ :=
    .of_eq (Rendering.filePath_congr rfl (h.names.get?_eq adds) _) fun _ => ⟨rfl, trivial⟩
  load {p c d} _ _ := by
    change Outcome.Matches _ _ (Loader.direct library.read p c) (Loader.direct library.read p d)
    rw [Loader.direct, Loader.direct]
    cases hl : loadAnew library.read p with
    | error failure => exact .same failure
    | ok nodes =>
      rcases Library.loadAnew_eq_ok_iff.mp hl with ⟨content, found, compiled⟩
      exact .ok ⟨rfl, iterating_admits (files p content nodes found compiled), trivial⟩
  push inside h := h.push inside
  pop h := h.pop
  assign _ ht _ := ht.elim

end Alone

section Loop

variable (options : Options) {library : Library} (data : Value) {body : List Node}

/-- An iteration does what its body does on the data of the iteration alone, and leaves the context
as it was but for the blocks. -/
theorem iteration_matches (files : library.AssignsNothing)
    (unassigned : Node.everywhereAll Node.AssignsNothing body) (levels : Nat) (spec : LoopSpec)
    (item : Value) (index length : Nat) (blocks : Record String) (cache : PartialCache)
    (out : String) :
    Outcome.Matches (fun _ => False)
      (fun x y => x.context = ⟨data, [], [], y.context.blocks, .output, 0⟩ ∧ x.out = out ++ y.out)
      (Rendering.renderIteration spec ((library.rendering options).renderWithin levels body) length
        index item ⟨⟨data, [], [], blocks, .output, 0⟩, cache, out⟩)
      ((library.rendering options).renderWithin levels body
        ⟨⟨Rendering.iterationData spec item index length data, [], [], blocks, .output, 0⟩,
          [], ""⟩) := by
  let scope := Rendering.loopScope spec.item item index length
  let alone := Rendering.iterationData spec item index length data
  have adds : ∀ name, Context.inData? name alone =
      (scope.get? name).or (Context.inData? name data) :=
    Rendering.inData?_iterationData spec item index length data
  have sim : (iterating data alone scope).Relates (library.rendering options)
      (library.rendering options) := iterating_relates files adds
  let start : Run := ⟨⟨data, [], [scope], blocks, .output, 0⟩, cache, out⟩
  let fresh : Run := ⟨⟨alone, [], [], blocks, .output, 0⟩, [], ""⟩
  have alike : (iterating data alone scope).Alike out start fresh :=
    ⟨⟨⟨rfl, rfl, rfl, rfl, rfl⟩, rfl, rfl, rfl⟩, trivial, String.append_empty.symm⟩
  apply (sim.renderWithin rfl levels (iterating_admits unassigned) out start fresh alike).bind_left
  intro x y hxy
  have place : x.context.place = ⟨[scope], .output, 0⟩ := hxy.left
  simp only [Context.place, Context.Place.mk.injEq] at place
  have here : x.context.data = data := hxy.alike.context.names.data
  have unassigned : x.context.globals = [] := hxy.alike.context.names.unassigned
  refine ⟨?_, hxy.alike.out⟩
  rw [Run.onContext, Context.pop, place.1, place.2.1, place.2.2, here, unassigned,
    hxy.alike.context.blocks]
  rfl

theorem forall_mem_dropLast_cons {α : Type} {p : α → Prop} {first : α} {rest : List α} :
    (∀ x ∈ (first :: rest).dropLast, p x) ↔
      (rest ≠ [] → p first) ∧ ∀ x ∈ rest.dropLast, p x := by
  cases rest <;> simp

/-- The iterations of a loop, if all but the last one store nothing, write what the body writes for
each item alone. -/
theorem forEach_matches (files : library.AssignsNothing)
    (unassigned : Node.everywhereAll Node.AssignsNothing body) (spec : LoopSpec)
    (items : List Value) (index length : Nat) (blocks : Record String) (cache : PartialCache)
    (out : String) (before : items ≠ [] → blocks = [])
    (unstored : ∀ iteration ∈ (items.zipIdx index).dropLast,
      (library.rendering options).StoresNothing body
        (Rendering.iterationData spec iteration.1 iteration.2 length data)) :
    Outcome.Matches (fun _ => False) (fun x texts => x.out = out ++ String.join texts)
      (Rendering.forEach (Rendering.renderIteration spec
        ((library.rendering options).renderWithin options.maxIncludeDepth body) length) index items
          ⟨⟨data, [], [], blocks, .output, 0⟩, cache, out⟩)
      ((items.zipIdx index).mapM fun iteration => (library.rendering options).renderText body
        (Rendering.iterationData spec iteration.1 iteration.2 length data)) := by
  -- Blocks may be left after the last item only, so the state before an item has none.
  induction items generalizing index blocks cache out with
  | nil => exact .ok (by simp)
  | cons item rest ih =>
    have empty := before (List.cons_ne_nil _ _)
    subst empty
    rw [List.zipIdx_cons, forall_mem_dropLast_cons] at unstored
    rcases unstored with ⟨stored, later⟩
    have one := (iteration_matches options data files unassigned options.maxIncludeDepth spec item
      index length [] cache out).with_result
    have first : Outcome.Matches (fun _ => False)
        (fun (x : Run) text => ∃ left, x.context = ⟨data, [], [], left, .output, 0⟩ ∧
          (rest ≠ [] → left = []) ∧ x.out = out ++ text)
        (Rendering.renderIteration spec
          ((library.rendering options).renderWithin options.maxIncludeDepth body) length index item
          ⟨⟨data, [], [], [], .output, 0⟩, cache, out⟩)
        ((library.rendering options).renderText body
          (Rendering.iterationData spec item index length data)) := by
      apply one.bind_right
      rintro x y ⟨⟨context, written⟩, rendered⟩
      exact ⟨y.context.blocks, context, fun more => stored (by simpa using more) y rendered,
        written⟩
    rw [Rendering.forEach_cons, List.zipIdx_cons, List.mapM_cons]
    apply first.bind
    rintro ⟨_, cache, _⟩ text ⟨left, rfl, cleared, rfl⟩
    apply (ih (index + 1) left cache (out ++ text) cleared later).bind_right
    intro x texts written
    rw [written, String.join_cons, String.append_assoc]

/-- What a rendering leaves stored does not depend on whether partials are kept. -/
theorem storesNothing_of_cached {nodes : List Node}
    (h : Rendering.StoresNothing ⟨options, .cached library.read⟩ nodes data) :
    (library.rendering options).StoresNothing nodes data := by
  intro last rendered
  let start : Run := ⟨.initial data, [], ""⟩
  have alike : library.caching.Alike "" start start :=
    ⟨⟨rfl, rfl, rfl, rfl⟩, (by intro entry he; cases he), rfl⟩
  have ends := (library.caching_relates options).renderWithin rfl options.maxIncludeDepth
    (library.caching_admits nodes) "" start start alike
  change (library.rendering options).renderWithin options.maxIncludeDepth nodes start = _
    at rendered
  change Outcome.Matches _ _ _
    ((library.rendering options).renderWithin options.maxIncludeDepth nodes start) at ends
  rw [rendered] at ends
  rcases ends.exists_of_ok_right with ⟨other, found, ends⟩
  rw [← ends.alike.context.blocks]
  exact h other found

end Loop

theorem Rendering.renderText_loop {r : Rendering} {data : Value} {spec : LoopSpec} {line : Nat}
    {file : Option String} {body : List Node} {items : List Value}
    (collected : r.loopItems ⟨.initial data, [], ""⟩ spec = .ok items) :
    r.renderText [.mk (.loop spec) line file (some body)] data =
      forEach (renderIteration spec (r.renderWithin r.options.maxIncludeDepth body) items.length) 0
        items ⟨.initial data, [], ""⟩ >>= fun run => .ok run.out := by
  have levels : r.options.maxIncludeDepth - (Context.initial data).depth =
      r.options.maxIncludeDepth := rfl
  rw [renderText, render, levels, renderWithin_eq, renderNodes_singleton, renderNode]
  simp only [renderLoop, collected, renderChildren]
  rfl

/-- If nothing is assigned, and no iteration but the last one leaves blocks stored, a loop writes
what its body writes for each item alone, and fails where the body first fails alone. -/
theorem renderTemplate_loop {options : Options} {library : Library} {data : Value}
    {spec : LoopSpec} {line : Nat} {file : Option String} {body : List Node} {items : List Value}
    (files : library.AssignsNothing)
    (unassigned : Node.everywhereAll Node.AssignsNothing body)
    (collected : Rendering.loopItems ⟨options, .cached library.read⟩ ⟨.initial data, [], ""⟩ spec =
      .ok items)
    (unstored : ∀ iteration ∈ items.zipIdx.dropLast,
      Rendering.StoresNothing ⟨options, .cached library.read⟩ body
        (Rendering.iterationData spec iteration.1 iteration.2 items.length data)) :
    renderTemplate options library.read [.mk (.loop spec) line file (some body)] data =
      (items.zipIdx.mapM fun iteration => renderTemplate options library.read body
        (Rendering.iterationData spec iteration.1 iteration.2 items.length data)).map
          String.join := by
  have direct : ∀ nodes data, renderTemplate options library.read nodes data =
      (library.rendering options).renderText nodes data := library.renderText_cached options
  have matched := forEach_matches options data files unassigned spec items 0 items.length [] [] ""
    (fun _ => rfl) fun iteration hi =>
      storesNothing_of_cached options _ (unstored iteration hi)
  have here : (library.rendering options).loopItems ⟨.initial data, [], ""⟩ spec = .ok items :=
    collected
  simp only [direct]
  rw [Rendering.renderText_loop here]
  apply Outcome.Matches.eq_map
  apply matched.bind_left
  intro x texts written
  rw [written, String.empty_append]

/-- The same partial in every iteration. -/
theorem renderTemplate_loop_of_partial :
    let library : Library := ⟨[(⟨"a.liquid"⟩, "\x7b\x7b forloop.index \x7d\x7d;")]⟩
    let spec : LoopSpec := ⟨"x", .path "xs" [], none, none, false⟩
    let body : List Node :=
      [.leaf (.output ⟨.path "x" [], []⟩) 1, .mk (.include []) 1 (some "'a'") none]
    let data : Value := .object [("xs", .list [.int 7, .int 8])]
    renderTemplate .usual library.read [.mk (.loop spec) 1 none (some body)] data =
      .ok "71;82;" := by
  intro library spec body data
  have files : library.AssignsNothing := Library.assignsNothing_of_files (by decide +kernel)
  have collected : Rendering.loopItems ⟨.usual, .cached library.read⟩ ⟨.initial data, [], ""⟩ spec =
      .ok [.int 7, .int 8] := by
    with_unfolding_all rfl
  have unstored : ∀ iteration ∈ [(Value.int 7, 0)],
      Rendering.StoresNothing ⟨.usual, .cached library.read⟩ body
        (Rendering.iterationData spec iteration.1 iteration.2 2 data) := by
    intro iteration hi last rendered
    rw [List.mem_singleton.mp hi] at rendered
    have empty : (Rendering.render ⟨.usual, .cached library.read⟩ body
        ⟨.initial (Rendering.iterationData spec (.int 7) 0 2 data), [], ""⟩).toOption.all
          fun last => last.context.blocks.isEmpty := by
      decide +kernel
    rw [toOption_eq_some_iff.mpr rendered, Option.all_some, List.isEmpty_iff] at empty
    exact empty
  rw [renderTemplate_loop files (by decide +kernel) collected unstored, ← toOption_eq_some_iff]
  decide +kernel

/-- The same partial with a layout in every iteration: the second one shows the block of the first
one. -/
theorem renderTemplate_loop_of_layout :
    let page := "\x7b% for x in xs %\x7d\x7b% include 'a' %\x7d\x7b% endfor %\x7d"
    let a := "\x7b% layout 'b' %\x7d\x7b% block c %\x7d\x7b\x7b x \x7d\x7d\x7b% endblock %\x7d"
    let b := "\x7b% block c %\x7d\x7b% endblock %\x7d"
    let library : Library := ⟨[(⟨"a.liquid"⟩, a), (⟨"b.liquid"⟩, b)]⟩
    let spec : LoopSpec := ⟨"x", .path "xs" [], none, none, false⟩
    let body : List Node := [.mk (.include []) 1 (some "'a'") none]
    let items : List Value := [.int 1, .int 2]
    let data : Value := .object [("xs", .list items)]
    compile page = .ok [.mk (.loop spec) 1 none (some body)] ∧
      library.AssignsNothing ∧ Node.everywhereAll Node.AssignsNothing body ∧
      renderTemplate .usual library.read [.mk (.loop spec) 1 none (some body)] data = .ok "11" ∧
      (items.zipIdx.mapM fun iteration => renderTemplate .usual library.read body
        (Rendering.iterationData spec iteration.1 iteration.2 items.length data)).map String.join =
          .ok "12" := by
  intro page a b library spec body items data
  have compiled : compile page = .ok [.mk (.loop spec) 1 none (some body)] := by
    subst page spec body
    with_unfolding_all rfl
  exact ⟨compiled, Library.assignsNothing_of_files (by decide +kernel), by decide +kernel,
    toOption_eq_some_iff.mp (by decide +kernel), toOption_eq_some_iff.mp (by decide +kernel)⟩

end TemplateSite
