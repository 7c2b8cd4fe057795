import TemplateSite.Dependency.Walk
import TemplateSite.Proofs.Template.Everywhere

/-!
# What the walk finds

The walk over a stack of siblings finds the references of all nodes on the stack, the top first, as
the recursion on the trees gives them. What holds of all of them holds everywhere in the trees. The
sequence is also told apart from the walk: a node that names a file reports a path, for which its
reference loses the mark in front of it and the one at its end and is put between the root and the
extension, and then come the paths of the nodes inside it.
-/
namespace TemplateSite

theorem walk_eq_flatMap (options : Options) (stack : List (List Node)) :
    walk options stack = stack.flatMap (Node.referencesAll options) := by
  induction stack using walk.induct with
  | case1 => rw [walk]; rfl
  | case2 stack ih =>
    rw [walk, ih, List.flatMap_cons, Node.referencesAll, List.nil_append]
  | case3 kind line file children siblings stack ih =>
    rw [walk, ih, List.flatMap_cons, Node.referencesAll, Node.references]
    cases children with
    | none => simp [pushChildren, Node.referencesOf]
    | some nodes => simp [pushChildren, Node.referencesOf]

theorem dependencies_eq_referencesAll (options : Options) (nodes : List Node) :
    dependencies options nodes = Node.referencesAll options nodes := by
  rw [dependencies, walk_eq_flatMap, List.flatMap_singleton]

namespace Node

variable {options : Options}

mutual

theorem references_eq_gather : ∀ node : Node,
    node.references options = node.gather fun _ file => options.pathsOf file
  | .mk kind line file children => by
    rw [references, gather, referencesOf_eq_gatherOf]

theorem referencesOf_eq_gatherOf : ∀ children : Option (List Node),
    referencesOf options children = gatherOf (fun _ file => options.pathsOf file) children
  | none => by
    rw [referencesOf, gatherOf]
  | some nodes => by
    rw [referencesOf, gatherOf, referencesAll_eq_gatherAll]

theorem referencesAll_eq_gatherAll : ∀ nodes : List Node,
    referencesAll options nodes = gatherAll (fun _ file => options.pathsOf file) nodes
  | [] => by
    rw [referencesAll, gatherAll]
  | node :: rest => by
    rw [referencesAll, gatherAll, references_eq_gather, referencesAll_eq_gatherAll]

end

/-- What holds of the references of nodes holds of the file that any node among them names. -/
theorem everywhereAll_of_references {P : Path → Prop} {nodes : List Node}
    (h : ∀ p ∈ referencesAll options nodes, P p) :
    everywhereAll (fun _ file => ∀ raw ∈ file, P (options.resolve raw)) nodes := by
  rw [referencesAll_eq_gatherAll] at h
  have paths := everywhereAll_of_gather h
  refine everywhereAll_both ?_ paths paths
  intro _ file hp _ raw hr
  apply hp
  rw [Options.pathsOf, Option.mem_def.mp hr]
  exact List.mem_singleton_self _

end Node

/-! ## The sequence of reports -/

namespace Reference

/-- The marks that a reference can stand between. -/
def marks : List Char := ['\x27', '\x22']

/-- A text before and after the mark in front of it is taken away, if it has one. -/
inductive Opened : List Char → List Char → Prop where
  | marked {q : Char} (s : List Char) (h : q ∈ marks) : Opened (q :: s) s
  | bare {s : List Char} (h : ∀ q ∈ marks, s.head? ≠ some q) : Opened s s

/-- A text before and after the mark at its end is taken away, if it has one. -/
inductive Closed : List Char → List Char → Prop where
  | marked {q : Char} (s : List Char) (h : q ∈ marks) : Closed (s ++ [q]) s
  | bare {s : List Char} (h : ∀ q ∈ marks, s.getLast? ≠ some q) : Closed s s

variable {s t name : List Char}

theorem mem_marks_iff (c : Char) : c ∈ marks ↔ isQuote c = true := by
  simp [marks, isQuote]

theorem exists_opened (s : List Char) : ∃ t, Opened s t := by
  cases s with
  | nil => exact ⟨[], .bare (by simp)⟩
  | cons c s =>
    by_cases h : c ∈ marks
    · exact ⟨s, .marked s h⟩
    · refine ⟨c :: s, .bare ?_⟩
      intro q hq same
      exact h (Option.some.inj same ▸ hq)

theorem exists_closed (s : List Char) : ∃ t, Closed s t := by
  induction s using List.reverseRecOn with
  | nil => exact ⟨[], .bare (by simp)⟩
  | append_singleton s c _ =>
    by_cases h : c ∈ marks
    · exact ⟨s, .marked s h⟩
    · refine ⟨s ++ [c], .bare ?_⟩
      intro q hq same
      rw [List.getLast?_concat] at same
      exact h (Option.some.inj same ▸ hq)

/-- Only the part that is left without a mark in front matters to what is stripped at the end. -/
theorem Opened.stripQuotes_eq (h : Opened s t) : stripQuotes s = stripQuotes ('\x27' :: t) := by
  have mark : isQuote '\x27' = true := by decide
  cases h with
  | marked t hq =>
    rw [mem_marks_iff] at hq
    simp only [stripQuotes, hq, mark, if_true]
  | bare none =>
    cases s with
    | nil => rfl
    | cons c s =>
      have hc : ¬ isQuote c = true := fun there => none c ((mem_marks_iff c).mpr there) rfl
      simp only [stripQuotes, hc, mark]
      rfl

theorem Closed.stripQuotes_eq (h : Closed t name) : stripQuotes ('\x27' :: t) = name := by
  have mark : isQuote '\x27' = true := by decide
  cases h with
  | marked name hq =>
    rw [mem_marks_iff] at hq
    simp [stripQuotes, mark, hq]
  | bare none =>
    cases ends : t.getLast? with
    | none =>
      obtain rfl := List.getLast?_eq_none_iff.mp ends
      rfl
    | some c =>
      have hc : ¬ isQuote c = true := fun there => none c ((mem_marks_iff c).mpr there) ends
      simp [stripQuotes, mark, ends, hc]

end Reference

/-- The path that a reference leads to, spelled out: what is left of the reference between its marks
stands after the root and before the extension. -/
def Options.Locates (options : Options) (raw : String) (path : Path) : Prop :=
  ∃ opened name, Reference.Opened raw.toList opened ∧ Reference.Closed opened name ∧
    path.text = options.root ++ String.ofList name ++ options.extname

theorem Options.locates_iff {options : Options} {raw : String} {path : Path} :
    options.Locates raw path ↔ path = options.resolve raw := by
  have spelled {opened name : List Char} (front : Reference.Opened raw.toList opened)
      (back : Reference.Closed opened name) : options.resolve raw =
        ⟨options.root ++ String.ofList name ++ options.extname⟩ := by
    rw [resolve, Reference.resolve, front.stripQuotes_eq, back.stripQuotes_eq, Reference.join]
  constructor
  · rintro ⟨opened, name, front, back, text⟩
    rw [spelled front back, ← text]
  · rintro rfl
    rcases Reference.exists_opened raw.toList with ⟨opened, front⟩
    rcases Reference.exists_closed opened with ⟨name, back⟩
    exact ⟨opened, name, front, back, congrArg Path.text (spelled front back)⟩

namespace Node

mutual

/-- The sequence of paths that a node reports: its own, if it names a file, before those inside. -/
inductive Reports (options : Options) : Node → List Path → Prop where
  | named {kind : NodeKind} {line : Nat} {raw : String} {children : Option (List Node)}
    {path : Path} {paths : List Path} (own : options.Locates raw path)
    (inside : ReportsOf options children paths) :
    Reports options (.mk kind line (some raw) children) (path :: paths)
  | unnamed {kind : NodeKind} {line : Nat} {children : Option (List Node)} {paths : List Path}
    (inside : ReportsOf options children paths) :
    Reports options (.mk kind line none children) paths

inductive ReportsOf (options : Options) : Option (List Node) → List Path → Prop where
  | none : ReportsOf options none []
  | some {nodes : List Node} {paths : List Path} (h : ReportsAll options nodes paths) :
    ReportsOf options (some nodes) paths

/-- The sequence of paths that nodes report, one after the other. -/
inductive ReportsAll (options : Options) : List Node → List Path → Prop where
  | nil : ReportsAll options [] []
  | cons {node : Node} {rest : List Node} {paths more : List Path}
    (first : Reports options node paths) (later : ReportsAll options rest more) :
    ReportsAll options (node :: rest) (paths ++ more)

end

variable {options : Options}

mutual

theorem reports_references : ∀ node : Node, Reports options node (node.references options)
  | .mk _ _ none children => .unnamed (reportsOf_referencesOf children)
  | .mk _ _ (some _) children =>
    .named (Options.locates_iff.mpr rfl) (reportsOf_referencesOf children)

theorem reportsOf_referencesOf : ∀ children : Option (List Node),
    ReportsOf options children (referencesOf options children)
  | none => .none
  | some nodes => .some (reportsAll_referencesAll nodes)

theorem reportsAll_referencesAll : ∀ nodes : List Node,
    ReportsAll options nodes (referencesAll options nodes)
  | [] => .nil
  | node :: rest => .cons (reports_references node) (reportsAll_referencesAll rest)

end

mutual

theorem Reports.eq_references : ∀ {node : Node} {paths : List Path},
    Reports options node paths → paths = node.references options
  | _, _, .named own inside => by
    rw [references, ← inside.eq_referencesOf, Options.locates_iff.mp own]
    rfl
  | _, _, .unnamed inside => by
    rw [references, ← inside.eq_referencesOf]
    rfl

theorem ReportsOf.eq_referencesOf : ∀ {children : Option (List Node)} {paths : List Path},
    ReportsOf options children paths → paths = referencesOf options children
  | _, _, .none => by rw [referencesOf]
  | _, _, .some h => by rw [referencesOf, ← h.eq_referencesAll]

theorem ReportsAll.eq_referencesAll : ∀ {nodes : List Node} {paths : List Path},
    ReportsAll options nodes paths → paths = referencesAll options nodes
  | _, _, .nil => by rw [referencesAll]
  | _, _, .cons first later => by
    rw [referencesAll, ← first.eq_references, ← later.eq_referencesAll]

end

theorem reportsAll_iff {nodes : List Node} {paths : List Path} :
    ReportsAll options nodes paths ↔ paths = referencesAll options nodes := by
  constructor
  · exact ReportsAll.eq_referencesAll
  · rintro rfl
    exact reportsAll_referencesAll nodes

end Node
end TemplateSite
