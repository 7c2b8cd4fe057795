import TemplateSite.Proofs.Render.Trees

/-!
# Names that a rendering reads

A rendering looks up the names that are written in the template and in the files that it may load,
and no others. So it gives the same on data that have the same under these names, whatever else is
in them.
-/
namespace TemplateSite

/-- The names that a reference reads: none if it is quoted, those of the path that it is else. -/
def Reference.roots (raw : String) : List String :=
  (expression? raw).toList.flatMap Expr.roots

/-- The names that a node reads, those of the nodes inside it apart. -/
def NodeKind.names (kind : NodeKind) (file : Option String) : List String :=
  kind.expressions.flatMap Expr.roots ++ (kind.reference? file).toList.flatMap Reference.roots

/-- The names that nodes read, and the nodes inside them. -/
abbrev Node.namesAll : List Node → List String :=
  gatherAll NodeKind.names

/-- The names that the files of a library read that compile. -/
def Library.names (library : Library) : List String :=
  library.files.flatMap fun file => (compile file.2).toOption.toList.flatMap Node.namesAll

/-- What names stand for with two data that have the same under the names of a set. -/
structure Names.Agree (R : Set String) (m n : Names) : Prop where
  data : ∀ name ∈ R, Context.inData? name m.data = Context.inData? name n.data
  globals : m.globals = n.globals
  scopes : m.scopes = n.scopes

theorem Names.Agree.get?_eq {R : Set String} {a b : Context} (h : Names.Agree R a.names b.names)
    {name : String} (hn : name ∈ R) : a.get? name = b.get? name := by
  have globals : a.globals = b.globals := h.globals
  have scopes : a.scopes = b.scopes := h.scopes
  have data : Context.inData? name a.data = Context.inData? name b.data := h.data name hn
  rw [Context.get?, Context.get?, globals, scopes, data]

section Alike

variable {R : Set String} {source : Source}

def reading (R : Set String) (source : Source) : Likeness where
  excused _ := False
  names := Names.Agree R
  caches c d := c = d ∧ c.FromFiles source
  target _ := True
  expression e := ∀ name ∈ e.roots, name ∈ R
  reference raw := ∀ name ∈ Reference.roots raw, name ∈ R
  path _ := True

theorem reading_admits {nodes : List Node} (h : ∀ name ∈ Node.namesAll nodes, name ∈ R) :
    (reading R source).Admits nodes := by
  have names := Node.everywhereAll_of_gather h
  refine Node.everywhereAll_both ?_ names names
  intro kind file hn _
  rw [NodeKind.names, List.forall_mem_append] at hn
  refine ⟨fun _ _ => trivial, ?_, ?_⟩
  · intro e he name there
    exact hn.1 name (List.mem_flatMap.mpr ⟨e, he, there⟩)
  · intro raw hr name there
    exact hn.2 name (List.mem_flatMap.mpr ⟨raw, Option.mem_toList.mpr hr, there⟩)

theorem reading_relates (options : Options)
    (files : ∀ inner, source.HasTree inner → ∀ name ∈ Node.namesAll inner, name ∈ R) :
    (reading R source).Relates ⟨options, .cached source⟩ ⟨options, .cached source⟩ where
  expression h he :=
    Expr.eval_matches_of_roots (fun _ _ => .refl _ _) fun name there =>
      h.names.get?_eq (he name there)
  filter _ _ _ := .refl _ _
  path {a b raw} h hr := by
    have values : ∀ e ∈ Reference.expression? raw, Outcome.Matches (fun _ => False) (· = ·)
        (e.eval options.strictVariables a.context) (e.eval options.strictVariables b.context) := by
      intro e he
      apply Expr.eval_matches_of_roots (fun _ _ => .refl _ _)
      intro name there
      apply h.names.get?_eq
      exact hr name (List.mem_flatMap.mpr ⟨e, Option.mem_toList.mpr he, there⟩)
    exact (Rendering.filePath_matches_of_expression (by rfl) (by rfl) values).mono fun _ _ hp =>
      ⟨hp, trivial⟩
  load {p _ _} _ hc := by
    rcases hc with ⟨rfl, hc⟩
    apply (hc.load_matches p).mono
    rintro x _ ⟨rfl, tree, kept⟩
    exact ⟨rfl, reading_admits (files x.1 tree), rfl, kept⟩
  push scope h := { h with scopes := congrArg (scope :: ·) h.scopes }
  pop h := { h with scopes := (List.cons.inj h.scopes).2 }
  assign {m n name} value _ h := { h with globals := congrArg (Record.insert name value) h.globals }

/-- Data that have the same under all names that are read render to the same. -/
theorem renderTemplate_congr (options : Options) {nodes : List Node} {a b : Value}
    (page : ∀ name ∈ Node.namesAll nodes, name ∈ R)
    (files : ∀ inner, source.HasTree inner → ∀ name ∈ Node.namesAll inner, name ∈ R)
    (agree : ∀ name ∈ R, Context.inData? name a = Context.inData? name b) :
    renderTemplate options source nodes a = renderTemplate options source nodes b :=
  ((reading_relates options files).renderText rfl (reading_admits page) ⟨agree, rfl, rfl⟩
    ⟨rfl, PartialCache.fromFiles_nil source⟩).eq

end Alike

theorem Library.mem_names {library : Library} {inner : List Node}
    (tree : Source.HasTree library.read inner) {name : String}
    (h : name ∈ Node.namesAll inner) : name ∈ library.names := by
  rcases library.exists_file_of_hasTree tree with ⟨file, there, compiled⟩
  refine List.mem_flatMap.mpr ⟨file, there, ?_⟩
  rw [toOption_eq_some_iff.mpr compiled]
  exact List.mem_flatMap.mpr ⟨inner, List.mem_singleton_self _, h⟩

/-- A rendering depends on the data under the names only that are written in the template and in the
files of the library. Data that are nil are as good as none. -/
theorem renderTemplate_of_agree (options : Options) (library : Library) (nodes : List Node)
    {a b : Record Value}
    (agree : ∀ name ∈ Node.namesAll nodes ++ library.names, a.get? name = b.get? name) :
    renderTemplate options library.read nodes (.object a) =
      renderTemplate options library.read nodes (.object b) ∧
    renderTemplate options library.read nodes .nil =
      renderTemplate options library.read nodes .emptyObject := by
  let R : Set String := fun name => name ∈ Node.namesAll nodes ++ library.names
  have page : ∀ name ∈ Node.namesAll nodes, name ∈ R :=
    fun name hn => List.mem_append_left _ hn
  have files : ∀ inner, Source.HasTree library.read inner → ∀ name ∈ Node.namesAll inner,
      name ∈ R :=
    fun inner tree name hn => List.mem_append_right _ (Library.mem_names tree hn)
  exact ⟨renderTemplate_congr options page files agree,
    renderTemplate_congr options page files fun _ _ => rfl⟩

/-- An include whose name comes from the data, with a name in the data that only a file that does
not compile has in it. -/
theorem renderTemplate_of_agree_dynamic :
    let library : Library := ⟨[
      (⟨"a.liquid"⟩, "\x7b% for y in ys %\x7d\x7b\x7b y[k] \x7d\x7d\x7b% endfor %\x7d"),
      (⟨"b.liquid"⟩, "\x7b\x7b z \x7d\x7d\x7b% if %\x7d")]⟩
    let nodes : List Node := [.mk (.include [("k", .path "i" [])]) 1 (some "n") none]
    let b : Record Value :=
      [("i", .int 0), ("n", .text "a"), ("ys", .list [.list [.text "s"], .list [.text "t"]])]
    let a : Record Value := b ++ [("z", .int 1)]
    Node.namesAll nodes ++ library.names = ["i", "n", "ys", "y", "k"] ∧
      (a.get? "z").isSome = true ∧ (b.get? "z").isSome = false ∧
      renderTemplate .usual library.read nodes (.object b) = .ok "st" ∧
      renderTemplate .usual library.read nodes (.object a) =
        renderTemplate .usual library.read nodes (.object b) := by
  intro library nodes b a
  have names : Node.namesAll nodes ++ library.names = ["i", "n", "ys", "y", "k"] := by
    decide +kernel
  have agree : ∀ name ∈ Node.namesAll nodes ++ library.names, a.get? name = b.get? name := by
    rw [names]
    intro name hn
    simp only [List.mem_cons, List.not_mem_nil, or_false] at hn
    rcases hn with rfl | rfl | rfl | rfl | rfl <;> rfl
  exact ⟨names, by decide +kernel, by decide +kernel, toOption_eq_some_iff.mp (by decide +kernel),
    (renderTemplate_of_agree .usual library nodes agree).1⟩

end TemplateSite
