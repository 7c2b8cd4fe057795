import TemplateSite.Proofs.Render.Trees

/-!
# What a rendering leaves as it was

A rendering that succeeds is at the end in the scopes, the block mode and the depth that it started
in, and it only adds to the output. No assigned name and no stored block is lost, and an assigned
name keeps its value if nothing that is rendered assigns to it.
-/
namespace TemplateSite

/-- The name that a node gives a value, if it gives one to a name. -/
def NodeKind.targets (kind : NodeKind) (_ : Option String) : List String :=
  kind.target?.toList

/-- The names that nodes assign to, and the nodes inside them. -/
abbrev Node.targetsAll : List Node → List String :=
  gatherAll NodeKind.targets

/-- The names that the nodes or some file of the source assigns to. -/
def Source.targets (source : Source) (nodes : List Node) : Set String :=
  fun name => name ∈ Node.targetsAll nodes ∨
    ∃ inner, source.HasTree inner ∧ name ∈ Node.targetsAll inner

/-- Assigned names after assignments to names in a set: none is lost, and the others have the values
that they had. -/
structure Record.Assigned (T : Set String) (before after : Record Value) : Prop where
  grows : before.Grows after
  kept : ∀ name, name ∉ T → after.get? name = before.get? name

theorem Record.Assigned.insert {T : Set String} {before after : Record Value}
    (h : Assigned T before after) {name : String} (ht : name ∈ T) (value : Value) :
    Assigned T before (after.insert name value) := by
  refine ⟨h.grows.insert name value, ?_⟩
  intro other ho
  have different : other ≠ name := by
    rintro rfl
    exact ho ht
  rw [get?_insert_of_ne different]
  exact h.kept other ho

namespace Source

variable (source : Source) (T : Set String) (start : Record Value)

/-- A rendering beside itself with another output. The names that it assigns to are in the set. -/
def restoring : Likeness where
  excused _ := False
  names m n := m = n ∧ Record.Assigned T start m.globals
  caches c d := c = d ∧ c.FromFiles source
  target name := name ∈ T
  expression _ := True
  reference _ := True
  path _ := True

variable {source T start}

theorem restoring_admits {nodes : List Node} (h : ∀ name ∈ Node.targetsAll nodes, name ∈ T) :
    (source.restoring T start).Admits nodes := by
  have targets := Node.everywhereAll_of_gather h
  refine Node.everywhereAll_both ?_ targets targets
  intro kind file ht _
  refine ⟨?_, fun _ _ => trivial, fun _ _ => trivial⟩
  intro name hn
  exact ht name (Option.mem_toList.mpr hn)

theorem restoring_relates (options : Options)
    (files : ∀ inner, source.HasTree inner → ∀ name ∈ Node.targetsAll inner, name ∈ T) :
    (source.restoring T start).Relates ⟨options, .cached source⟩ ⟨options, .cached source⟩ where
  expression h _ := .of_eq (Expr.eval_congr (Context.get?_of_names h.names.1) _) fun _ => rfl
  filter _ _ _ := .refl _ _
  path h _ :=
    .of_eq (Rendering.filePath_congr rfl (Context.get?_of_names h.names.1) _) fun _ =>
      ⟨rfl, trivial⟩
  load {p _ _} _ hc := by
    rcases hc with ⟨rfl, hc⟩
    apply (hc.load_matches p).mono
    rintro x _ ⟨rfl, tree, kept⟩
    exact ⟨rfl, restoring_admits (files x.1 tree), rfl, kept⟩
  push scope h := ⟨congrArg (Names.push · scope) h.1, h.2⟩
  pop h := ⟨Names.push_inj h.1, h.2⟩
  assign value ht h := ⟨congrArg (Names.assign · _ value) h.1, h.2.insert ht value⟩

end Source

/-- Contexts in which names stand for the same and everything else is alike are the same. -/
theorem Context.Alike.eq {R : Names → Names → Prop} {a b : Context} (h : a.Alike R b)
    (names : a.names = b.names) : a = b := by
  rcases a with ⟨data, globals, scopes, blocks, mode, depth⟩
  rcases b with ⟨data', globals', scopes', blocks', mode', depth'⟩
  simp only [Context.names, Names.mk.injEq] at names
  rcases names with ⟨rfl, rfl, rfl⟩
  rcases h with ⟨-, rfl, rfl, rfl⟩
  rfl

theorem Source.restoring_eq {source : Source} {T : Set String} {start : Record Value}
    {before : String} {x y : Run} (h : (source.restoring T start).Alike before x y) :
    x = { y with out := before ++ y.out } := by
  have context : x.context = y.context := h.context.eq h.context.names.1
  have cache : x.cache = y.cache := h.cache.1
  rw [← context, ← cache, ← h.out]

/-- A rendering that succeeds ends in the scopes, the block mode and the depth that it started in.
It adds a text to the output that does not depend on what was there before, loses no assigned name
and no stored block, and keeps the values of the names that nothing assigns to. -/
theorem render_restores {options : Options} {source : Source} {nodes : List Node} {run last : Run}
    (cache : run.cache.FromFiles source)
    (h : Rendering.render ⟨options, .cached source⟩ nodes run = .ok last) :
    last.context.place = run.context.place ∧
    (∃ text, last.out = run.out ++ text ∧
      ∀ out, Rendering.render ⟨options, .cached source⟩ nodes { run with out } =
        .ok { last with out := out ++ text }) ∧
    run.context.globals.Grows last.context.globals ∧
    run.context.blocks.Grows last.context.blocks ∧
    ∀ name, name ∉ source.targets nodes →
      last.context.globals.get? name = run.context.globals.get? name := by
  let r : Rendering := ⟨options, .cached source⟩
  let t := source.restoring (source.targets nodes) run.context.globals
  have sim : t.Relates r r :=
    Source.restoring_relates options fun inner tree name hn => Or.inr ⟨inner, tree, hn⟩
  have admits : t.Admits nodes := Source.restoring_admits fun name hn => Or.inl hn
  have unchanged : Record.Assigned (source.targets nodes) run.context.globals
      run.context.globals := ⟨.refl _, fun _ _ => rfl⟩
  -- The rendering is compared with the one that starts with no output, whatever its own output is.
  have beside (out : String) : Outcome.Matches (fun _ => False)
      (t.Ends out { run with out } { run with out := "" }) (r.render nodes { run with out })
      (r.render nodes { run with out := "" }) :=
    sim.renderWithin rfl _ admits out _ _
      ⟨⟨⟨rfl, unchanged⟩, rfl, rfl, rfl⟩, ⟨rfl, cache⟩, String.append_empty.symm⟩
  have ends := beside run.out
  rw [show r.render nodes { run with out := run.out } = .ok last from h] at ends
  rcases ends.exists_of_ok with ⟨bare, rendered, ends⟩
  have last_eq : last = { bare with out := run.out ++ bare.out } := Source.restoring_eq ends.alike
  refine ⟨ends.left, ⟨bare.out, congrArg Run.out last_eq, ?_⟩, ?_⟩
  · intro out
    have other := beside out
    rw [rendered] at other
    rcases other.exists_of_ok_right with ⟨x, found, alike⟩
    rw [found, Source.restoring_eq alike.alike, last_eq]
  · have assigned := ends.alike.context.names.2
    exact ⟨assigned.grows, ends.blocks, assigned.kept⟩

theorem Library.not_mem_targets {library : Library} {nodes : List Node} {name : String}
    (page : name ∉ Node.targetsAll nodes)
    (files : ∀ file ∈ library.files, (compile file.2).toOption.all fun inner =>
      decide (name ∉ Node.targetsAll inner)) : name ∉ Source.targets library.read nodes := by
  rintro (here | ⟨inner, tree, there⟩)
  · exact page here
  · rcases library.exists_file_of_hasTree tree with ⟨file, mem, compiled⟩
    have all := files file mem
    rw [toOption_eq_some_iff.mpr compiled, Option.all_some, decide_eq_true_eq] at all
    exact all there

/-- An include with children, inside a scope and among blocks that are stored; one of the partials
is in the cache, and one assigns to a name. -/
theorem render_restores_of_include :
    let library : Library := ⟨[(⟨"a.liquid"⟩, "\x7b% assign n = x %\x7d\x7b% include 'b' %\x7d"),
      (⟨"b.liquid"⟩, "T")]⟩
    let nodes : List Node := [.mk (.include []) 1 (some "'a'") (some [])]
    let run : Run := ⟨⟨.nil, [("m", .int 5)], [[("x", .bool true)]], [("d", "D")], .store, 3⟩,
      [(⟨"b.liquid"⟩, [.leaf (.text "T") 1])], "S"⟩
    ∃ last, Rendering.render ⟨.usual, .cached library.read⟩ nodes run = .ok last ∧
      last.out = "ST" ∧ last.context.place = run.context.place ∧
      last.context.globals.keys = ["m", "n"] ∧
      last.context.globals.get? "m" = run.context.globals.get? "m" := by
  intro library nodes run
  have tree : Source.HasTree library.read [.leaf (.text "T") 1] :=
    ⟨⟨"b.liquid"⟩, "T", by with_unfolding_all rfl, by with_unfolding_all rfl⟩
  have cache : run.cache.FromFiles library.read := by
    intro entry there
    rw [List.mem_singleton.mp there]
    exact tree
  have unassigned : "m" ∉ Source.targets library.read nodes :=
    Library.not_mem_targets (by decide +kernel) (by decide +kernel)
  have result : (Rendering.render ⟨.usual, .cached library.read⟩ nodes run).toOption.any
      (fun last => last.out == "ST" && last.context.globals.keys == ["m", "n"]) = true := by
    decide +kernel
  rcases exists_eq_ok_of_any result with ⟨last, rendered, shown⟩
  rw [Bool.and_eq_true, beq_iff_eq, beq_iff_eq] at shown
  rcases render_restores cache rendered with ⟨place, -, -, -, kept⟩
  exact ⟨last, rendered, shown.1, place, shown.2, kept "m" unassigned⟩

end TemplateSite
