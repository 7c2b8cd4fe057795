import TemplateSite.Dependency.Walk
import TemplateSite.Proofs.Expression.Spacing
import TemplateSite.Proofs.Render.Matching
import TemplateSite.Proofs.Template.Regular
import TemplateSite.Render.Engine

/-!
# What expressions and references depend on

An expression has the same value in two contexts in which every name that it reads stands for the
same. If the two evaluations do not agree on what an undefined path is, the values are alike as far
as they agree there. The path of a bare reference depends on the value of its variable in the same
way, and that of a quoted one on the reference alone.
-/
namespace TemplateSite
open Text

/-- What the names of a context stand for. -/
structure Names where
  data : Value
  globals : Record Value
  scopes : List (Record Value)

namespace Names

def push (names : Names) (scope : Record Value) : Names :=
  { names with scopes := scope :: names.scopes }

def assign (names : Names) (name : String) (value : Value) : Names :=
  { names with globals := names.globals.insert name value }

theorem push_inj {m n : Names} {scope : Record Value} (h : m.push scope = n.push scope) :
    m = n := by
  rcases m with ⟨data, globals, scopes⟩
  rcases n with ⟨data', globals', scopes'⟩
  simp only [push, mk.injEq, List.cons.injEq, true_and] at h
  rcases h with ⟨rfl, rfl, rfl⟩
  rfl

end Names

namespace Context

def names (ctx : Context) : Names :=
  ⟨ctx.data, ctx.globals, ctx.scopes⟩

theorem get?_of_names {a b : Context} (h : a.names = b.names) (name : String) :
    a.get? name = b.get? name := by
  simp only [names, Names.mk.injEq] at h
  rw [get?, get?, h.1, h.2.1, h.2.2]

theorem inScopes?_append (name : String) (inside around : List (Record Value)) :
    inScopes? name (inside ++ around) =
      (inScopes? name inside).or (inScopes? name around) := by
  induction inside with
  | nil => rfl
  | cons scope inside ih =>
    rw [List.cons_append, inScopes?, inScopes?]
    cases scope.get? name with
    | some v => rfl
    | none => exact ih

end Context

mutual

/-- The names that an expression reads: the roots of its paths and of the paths in their steps. -/
def Expr.roots : Expr → List String
  | .literal _ => []
  | .path root segments => root :: Segment.rootsAll segments
  | .range first last => first.roots ++ last.roots
  | .compare _ left right => left.roots ++ right.roots
  | .and left right => left.roots ++ right.roots
  | .or left right => left.roots ++ right.roots

def Segment.rootsAll : List Segment → List String
  | [] => []
  | segment :: rest => segment.roots ++ Segment.rootsAll rest

def Segment.roots : Segment → List String
  | .key _ => []
  | .index e => e.roots

end

section Evaluation

variable {excused : Failure RenderFault → Prop} {strict lenient : Bool} {a b : Context}

mutual

/-- The values of an expression are alike where the names that it reads stand for the same. -/
theorem Expr.eval_matches_of_roots
    (undefined : ∀ shown found, Outcome.Matches excused (· = ·) (definedOr strict shown found)
      (definedOr lenient shown found)) :
    ∀ {e : Expr}, (∀ name ∈ e.roots, a.get? name = b.get? name) →
      Outcome.Matches excused (· = ·) (e.eval strict a) (e.eval lenient b)
  | .literal v => by
    intro _
    rw [Expr.eval, Expr.eval]
    exact .refl _ _
  | .path root segments => by
    intro names
    rw [Expr.roots, List.forall_mem_cons] at names
    rw [Expr.eval, Expr.eval, names.1]
    split
    · exact undefined _ none
    · apply (Segment.follow_matches undefined names.2 _).bind_eq
      intro found
      exact undefined _ found
  | .range first last => by
    intro names
    rw [Expr.roots, List.forall_mem_append] at names
    rw [Expr.eval, Expr.eval]
    apply (Expr.eval_matches_of_roots undefined names.1).bind_eq
    intro x
    apply (Expr.eval_matches_of_roots undefined names.2).bind_eq
    intro y
    exact .refl _ _
  | .compare op left right => by
    intro names
    rw [Expr.roots, List.forall_mem_append] at names
    rw [Expr.eval, Expr.eval]
    apply (Expr.eval_matches_of_roots undefined names.1).bind_eq
    intro x
    apply (Expr.eval_matches_of_roots undefined names.2).bind_eq
    intro y
    exact .refl _ _
  | .and left right => by
    intro names
    rw [Expr.roots, List.forall_mem_append] at names
    rw [Expr.eval, Expr.eval]
    apply (Expr.eval_matches_of_roots undefined names.1).bind_eq
    intro x
    split
    · apply (Expr.eval_matches_of_roots undefined names.2).bind_eq
      intro y
      exact .refl _ _
    · exact .refl _ _
  | .or left right => by
    intro names
    rw [Expr.roots, List.forall_mem_append] at names
    rw [Expr.eval, Expr.eval]
    apply (Expr.eval_matches_of_roots undefined names.1).bind_eq
    intro x
    split
    · exact .refl _ _
    · apply (Expr.eval_matches_of_roots undefined names.2).bind_eq
      intro y
      exact .refl _ _

theorem Segment.follow_matches
    (undefined : ∀ shown found, Outcome.Matches excused (· = ·) (definedOr strict shown found)
      (definedOr lenient shown found)) :
    ∀ {segments : List Segment}, (∀ name ∈ Segment.rootsAll segments, a.get? name = b.get? name) →
      ∀ value : Value, Outcome.Matches excused (· = ·)
        (Segment.follow strict a value segments) (Segment.follow lenient b value segments)
  | [] => by
    intro _ value
    rw [Segment.follow, Segment.follow]
    exact .refl _ _
  | segment :: rest => by
    intro names value
    rw [Segment.rootsAll, List.forall_mem_append] at names
    rw [Segment.follow, Segment.follow]
    apply (Segment.evalKey_matches undefined names.1).bind_eq
    intro key
    split
    · exact .refl _ _
    · exact Segment.follow_matches undefined names.2 _

theorem Segment.evalKey_matches
    (undefined : ∀ shown found, Outcome.Matches excused (· = ·) (definedOr strict shown found)
      (definedOr lenient shown found)) :
    ∀ {segment : Segment}, (∀ name ∈ segment.roots, a.get? name = b.get? name) →
      Outcome.Matches excused (· = ·) (segment.evalKey strict a) (segment.evalKey lenient b)
  | .key name => by
    intro _
    rw [Segment.evalKey, Segment.evalKey]
    exact .refl _ _
  | .index e => by
    intro names
    rw [Segment.roots] at names
    rw [Segment.evalKey, Segment.evalKey]
    exact Expr.eval_matches_of_roots undefined names

end

theorem Expr.eval_matches (names : ∀ name, a.get? name = b.get? name)
    (undefined : ∀ shown found, Outcome.Matches excused (· = ·) (definedOr strict shown found)
      (definedOr lenient shown found)) (e : Expr) :
    Outcome.Matches excused (· = ·) (e.eval strict a) (e.eval lenient b) :=
  Expr.eval_matches_of_roots undefined fun name _ => names name

theorem Expr.eval_congr (names : ∀ name, a.get? name = b.get? name) (e : Expr) :
    e.eval strict a = e.eval strict b :=
  (Expr.eval_matches names (fun _ _ => .refl _ _) e).eq

theorem Rendering.evalOutput_congr (r : Rendering) {x y : Run}
    (names : x.context.names = y.context.names) (o : Output) :
    r.evalOutput x o = r.evalOutput y o := by
  have values : Expr.eval r.options.strictVariables x.context =
      Expr.eval r.options.strictVariables y.context := by
    funext e
    exact Expr.eval_congr (Context.get?_of_names names) e
  simp only [evalOutput, eval, evalFilters, evalAll, values]

end Evaluation

theorem Reference.isBlank_of_isQuote {c : Char} (h : isQuote c = true) : isBlank c = false := by
  rw [isQuote, Bool.or_eq_true, beq_iff_eq, beq_iff_eq] at h
  rcases h with rfl | rfl <;> decide

theorem Reference.trim_of_written {raw : List Char} (hw : Written raw)
    (hq : isQuoted raw = true) : trim raw = raw := by
  cases hw with
  | @quoted q inside mark absent =>
    have hb := isBlank_of_isQuote mark
    rw [List.cons_append, trim, trimStart_cons_of_not_blank hb, ← List.cons_append, trimEnd,
      List.reverse_append, List.reverse_singleton, List.singleton_append,
      List.dropWhile_cons_of_neg (by simp [hb]), List.reverse_cons, List.reverse_reverse]
  | bare mark _ =>
    rw [mark] at hq
    cases hq

/-- Rendering and the walk resolve a quoted reference to the same path. -/
theorem Rendering.filePath_of_quoted (r : Rendering) (run : Run) {raw : String}
    (hw : Reference.Written raw.toList) (hq : Reference.isQuoted raw.toList = true) :
    r.filePath run raw = .ok (r.options.resolve raw) := by
  rw [filePath, Reference.trim_of_written hw hq]
  simp only [hq, if_true, String.ofList_toList]
  rfl

/-- The variable path that a bare reference is read as. -/
def Reference.expression? (raw : String) : Option Expr :=
  let reference := Text.trim raw.toList
  if isQuoted reference then none else (Expr.parsePath reference).toOption

/-- References lead to the same paths where the variables in them have the same values. -/
theorem Rendering.filePath_matches_of_expression {excused : Failure RenderFault → Prop}
    {r₁ r₂ : Rendering} {a b : Run} (root : r₁.options.root = r₂.options.root)
    (extname : r₁.options.extname = r₂.options.extname) {raw : String}
    (values : ∀ e ∈ Reference.expression? raw,
      Outcome.Matches excused (· = ·) (r₁.eval a e) (r₂.eval b e)) :
    Outcome.Matches excused (· = ·) (r₁.filePath a raw) (r₂.filePath b raw) := by
  rw [filePath, filePath, root, extname]
  split
  · exact .refl _ _
  · rename_i bare
    split
    · exact .refl _ _
    · rename_i e parsed
      have read : Reference.expression? raw = some e := by
        rw [Reference.expression?, if_neg bare, parsed]
        rfl
      apply (values e read).bind_eq
      intro value
      exact .refl _ _

theorem Rendering.filePath_matches {excused : Failure RenderFault → Prop} {r₁ r₂ : Rendering}
    {a b : Run} (root : r₁.options.root = r₂.options.root)
    (extname : r₁.options.extname = r₂.options.extname)
    (values : ∀ e, Outcome.Matches excused (· = ·) (r₁.eval a e) (r₂.eval b e)) (raw : String) :
    Outcome.Matches excused (· = ·) (r₁.filePath a raw) (r₂.filePath b raw) :=
  filePath_matches_of_expression root extname fun e _ => values e

theorem Rendering.filePath_congr {r₁ r₂ : Rendering} {a b : Run}
    (options : r₁.options = r₂.options)
    (names : ∀ name, a.context.get? name = b.context.get? name) (raw : String) :
    r₁.filePath a raw = r₂.filePath b raw := by
  have values : ∀ e, r₁.eval a e = r₂.eval b e := by
    intro e
    rw [eval, eval, options]
    exact Expr.eval_congr names e
  have root := congrArg Options.root options
  have extname := congrArg Options.extname options
  exact (filePath_matches root extname (fun e => .of_eq (values e) fun _ => rfl) raw).eq

end TemplateSite
