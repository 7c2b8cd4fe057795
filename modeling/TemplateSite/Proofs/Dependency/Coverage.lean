import Mathlib.Data.Set.Defs
import TemplateSite.Proofs.Dependency.Walk
import TemplateSite.Proofs.Render.Trees

/-!
# Dependencies are all that a rendering reads

A set of paths covers a tree if it has the dependencies of the tree in it and all references of the
tree are quoted. If a set covers a page and every file at a path of the set that compiles, rendering
the page reads no path outside the set: files elsewhere can change and the outcome stays the same.
-/
namespace TemplateSite

/-- A file that a node names is named by a quoted reference. -/
def Node.NamesQuoted (_ : NodeKind) (file : Option String) : Prop :=
  ∀ raw ∈ file, Reference.isQuoted raw.toList = true

instance (kind : NodeKind) (file : Option String) : Decidable (Node.NamesQuoted kind file) :=
  inferInstanceAs (Decidable (∀ raw ∈ file, Reference.isQuoted raw.toList = true))

/-- A set of paths covers a tree: all its references are quoted, and the set has its dependencies in
it. -/
structure Options.Covers (options : Options) (D : Set Path) (nodes : List Node) : Prop where
  quoted : Node.everywhereAll Node.NamesQuoted nodes
  contains : ∀ p ∈ dependencies options nodes, p ∈ D

/-- A reference that is a complete literal and leads to a path in the set. -/
structure Options.LeadsInto (options : Options) (D : Set Path) (raw : String) : Prop where
  written : Reference.Written raw.toList
  quoted : Reference.isQuoted raw.toList = true
  target : options.resolve raw ∈ D

/-- The files that nodes name are named by references into the set. -/
abbrev Options.StaysIn (options : Options) (D : Set Path) (nodes : List Node) : Prop :=
  Node.everywhereAll (fun _ file => ∀ raw ∈ file, options.LeadsInto D raw) nodes

theorem Options.Covers.staysIn {options : Options} {D : Set Path} {source : String}
    {nodes : List Node} (h : options.Covers D nodes) (hc : compile source = .ok nodes) :
    options.StaysIn D nodes := by
  rcases Builder.compile_eq_ok hc with ⟨-, b, hb, hf⟩
  have regular := (Builder.addAll_keeps Builder.Regular.adds Builder.regular_empty hb).finish hf
  have contains := h.contains
  rw [dependencies_eq_referencesAll] at contains
  have literal : Node.everywhereAll (fun kind file => Node.NamesWritten kind file ∧
      Node.NamesQuoted kind file) nodes :=
    Node.everywhereAll_both (fun kind file hw hq => ⟨hw, hq⟩) regular.written h.quoted
  refine Node.everywhereAll_both ?_ literal (Node.everywhereAll_of_references contains)
  intro kind file hl ht raw hr
  exact ⟨hl.1 raw hr, hl.2 raw hr, ht raw hr⟩

/-- What renderings of the same nodes have in common that read from places where the set has the
same files: the partials that they keep are the same, and stay in the set. -/
def Options.likeness (options : Options) (D : Set Path) : Likeness where
  excused _ := False
  names := (· = ·)
  caches c d := c = d ∧ ∀ entry ∈ c, options.StaysIn D entry.2
  target _ := True
  expression _ := True
  reference := options.LeadsInto D
  path p := p ∈ D

theorem Options.StaysIn.admits {options : Options} {D : Set Path} {nodes : List Node}
    (h : options.StaysIn D nodes) : (options.likeness D).Admits nodes :=
  Node.everywhereAll_both (fun _ _ hp _ => ⟨fun _ _ => trivial, fun _ _ => trivial, fun raw hr =>
    hp raw (NodeKind.mem_of_mem_reference? hr)⟩) h h

theorem Options.cached_matches {options : Options} {D : Set Path} {a b : Source}
    (agree : ∀ p ∈ D, a p = b p)
    (files : ∀ p ∈ D, ∀ content nodes, a p = .ok content → compile content = .ok nodes →
      options.StaysIn D nodes)
    {p : Path} (hp : p ∈ D) {c : PartialCache} (hc : ∀ entry ∈ c, options.StaysIn D entry.2) :
    Outcome.Matches (fun _ => False) (fun x y => x.1 = y.1 ∧ (options.likeness D).Admits x.1 ∧
      (options.likeness D).caches x.2 y.2) (Loader.cached a p c) (Loader.cached b p c) := by
  have anew : loadAnew a p = loadAnew b p := by
    rw [loadAnew, loadAnew, agree p hp]
  rw [Loader.cached, Loader.cached, ← anew]
  cases hf : PartialCache.find? c p with
  | some nodes =>
    rcases Option.map_eq_some_iff.mp hf with ⟨entry, hfound, rfl⟩
    have stays := hc entry (List.mem_of_find?_eq_some hfound)
    exact .ok ⟨rfl, stays.admits, rfl, hc⟩
  | none =>
    cases hl : loadAnew a p with
    | error failure => exact .same failure
    | ok nodes =>
      have stays : options.StaysIn D nodes := by
        rcases loadAnew_eq_ok.mp hl with ⟨content, read, compiled⟩
        exact files p hp content nodes read compiled
      refine .ok ⟨rfl, stays.admits, rfl, ?_⟩
      intro entry he
      rcases List.mem_cons.mp he with rfl | he
      · exact stays
      · exact hc entry he

/-- Renderings from two sources that have the same files in the set run alike, if references lead to
the same paths in the rendering and in the walk. -/
theorem Options.likeness_relates {walker options : Options} {D : Set Path} {a b : Source}
    (resolve : walker.resolve = options.resolve) (agree : ∀ p ∈ D, a p = b p)
    (files : ∀ p ∈ D, ∀ content nodes, a p = .ok content → compile content = .ok nodes →
      walker.StaysIn D nodes) :
    (walker.likeness D).Relates ⟨options, .cached a⟩ ⟨options, .cached b⟩ where
  expression h _ := .of_eq (Expr.eval_congr (Context.get?_of_names h.names) _) fun _ => rfl
  filter _ _ _ := .refl _ _
  path {x y raw} _ hr := by
    rw [Rendering.filePath_of_quoted _ x hr.written hr.quoted,
      Rendering.filePath_of_quoted _ y hr.written hr.quoted, ← resolve]
    exact .ok ⟨rfl, hr.target⟩
  load hp hc := by
    rcases hc with ⟨rfl, hc⟩
    exact Options.cached_matches agree files hp hc
  push scope h := congrArg (Names.push · scope) h
  pop h := Names.push_inj h
  assign value _ h := congrArg (Names.assign · _ value) h

theorem Options.resolve_congr {walker options : Options} (hr : walker.root = options.root)
    (he : walker.extname = options.extname) : walker.resolve = options.resolve := by
  funext raw
  rw [resolve, resolve, hr, he]

/-- If a set of paths covers a page and all files of the set that compile, a rendering of the page
depends on no other file. -/
theorem renderTemplate_eq_of_covers {walker options : Options} {D : Set Path} {source : String}
    {nodes : List Node} {a b : Library} (root : walker.root = options.root)
    (extname : walker.extname = options.extname) (compiled : compile source = .ok nodes)
    (page : walker.Covers D nodes)
    (files : ∀ p ∈ D, ∀ content inner, a.find? p = some content → compile content = .ok inner →
      walker.Covers D inner)
    (agree : ∀ p ∈ D, a.find? p = b.find? p) (data : Value) :
    renderTemplate options a.read nodes data = renderTemplate options b.read nodes data := by
  have reads : ∀ p ∈ D, a.read p = b.read p := by
    intro p hp
    rw [Library.read, Library.read, agree p hp]
  have stays : ∀ p ∈ D, ∀ content inner, a.read p = .ok content → compile content = .ok inner →
      walker.StaysIn D inner := by
    intro p hp content inner hread hc
    exact (files p hp content inner (Library.read_eq_ok hread) hc).staysIn hc
  have relates := Options.likeness_relates (Options.resolve_congr root extname) reads stays
  have admits := (page.staysIn compiled).admits
  exact (relates.renderText rfl admits rfl ⟨rfl, by simp⟩).eq

/-- An include of a file with a layout that does not exist, and a third file that changes. -/
theorem renderTemplate_eq_of_covers_usual :
    let page := "x\x7b% include 'a' %\x7d"
    let file := "\x7b% layout 'b' %\x7dy"
    let D : Set Path := fun p => p = ⟨"a.liquid"⟩ ∨ p = ⟨"b.liquid"⟩
    let before : Library := ⟨[(⟨"a.liquid"⟩, file), (⟨"c.liquid"⟩, "1")]⟩
    let after : Library := ⟨[(⟨"a.liquid"⟩, file), (⟨"c.liquid"⟩, "2")]⟩
    ∃ nodes, compile page = .ok nodes ∧ Options.usual.Covers D nodes ∧
      (∀ p ∈ D, before.find? p = after.find? p) ∧
      before.find? ⟨"c.liquid"⟩ ≠ after.find? ⟨"c.liquid"⟩ ∧
      renderTemplate .usual before.read nodes .emptyObject =
        renderTemplate .usual after.read nodes .emptyObject := by
  intro page file D before after
  let ok (nodes : List Node) : Bool := decide (Node.everywhereAll Node.NamesQuoted nodes) &&
    (dependencies .usual nodes).all fun p => p == ⟨"a.liquid"⟩ || p == ⟨"b.liquid"⟩
  have covers : ∀ nodes, ok nodes = true → Options.usual.Covers D nodes := by
    intro nodes h
    rw [Bool.and_eq_true, decide_eq_true_eq, List.all_eq_true] at h
    refine ⟨h.1, ?_⟩
    intro p hp
    have := h.2 p hp
    rw [Bool.or_eq_true, beq_iff_eq, beq_iff_eq] at this
    exact this
  have hpage : (compile page).toOption.any ok := by decide +kernel
  have hfile : (compile file).toOption.any ok := by decide +kernel
  rcases exists_eq_ok_of_any hpage with ⟨nodes, compiled, hnodes⟩
  rcases exists_eq_ok_of_any hfile with ⟨inner, compiledFile, hinner⟩
  have here : before.find? ⟨"a.liquid"⟩ = some file := by decide +kernel
  have missing : before.find? ⟨"b.liquid"⟩ = none := by decide +kernel
  have agree : ∀ p ∈ D, before.find? p = after.find? p := by
    rintro p (rfl | rfl) <;> decide +kernel
  have files : ∀ p ∈ D, ∀ content other, before.find? p = some content →
      compile content = .ok other → Options.usual.Covers D other := by
    rintro p (rfl | rfl) content other hf hc
    · rw [here] at hf
      cases hf
      rw [compiledFile] at hc
      cases hc
      exact covers _ hinner
    · rw [missing] at hf
      cases hf
  exact ⟨nodes, compiled, covers _ hnodes, agree, by decide +kernel,
    renderTemplate_eq_of_covers rfl rfl compiled (covers _ hnodes) files agree .emptyObject⟩

end TemplateSite
