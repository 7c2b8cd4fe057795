import TemplateSite.Proofs.Data.Obstacles
import TemplateSite.Proofs.Render.Comparison
import TemplateSite.Proofs.Render.Conditionals
import TemplateSite.Proofs.Render.Sequences

/-!
# What objects contain and what can be read from them

Whether an object contains a key is decided by the text that output shows for the key, and data that
has integers or truth values for keys is laid out under their texts as well. A path reads an entry
only by a key that is a text itself. So each key of some data is contained in the object, but a text
alone leads to the entry, and in strict mode the condition does not keep the others from a fault.
-/
namespace TemplateSite

/-- A conditional that outputs the entry of an object under a key if the object contains the key. -/
def guardedEntry (line : Nat) (root : String) (segments : List Segment) (e : Expr) : Node :=
  .container .conditional line
    [branchNode (some (.compare .contains (.path root segments) e)) false line
      [.leaf (.output ⟨.path root (segments ++ [.index e]), []⟩) line]]

namespace Value

variable {fields : Record Value} {key : Value}

theorem step?_object_of_other (h : ∀ name, key ≠ .text name) :
    (object fields).step? key = none := by
  cases key with
  | text name => exact absurd rfl (h name)
  | _ => rfl

theorem Names.display_eq {name : String} (h : key.Names name) : key.display = name := by
  cases h with
  | text s => rw [display]
  | _ =>
    rw [display]
    rfl

end Value

/-! ## The keys of data -/

namespace Description

variable {entries : List (Option Description × Description)} {given : List (String × Value)}

/-- An entry of a map gives its value for the name of its key, and no entry is without a key. -/
theorem gives_entry {entry : Option Description × Description}
    {rest : List (MapPart × Description)} (h : Gives none (entryParts entry ++ rest) given) :
    ∃ k key name v later, entry.1 = some k ∧ k.LaysOut key ∧ key.Names name ∧
      given = (name, v) :: later ∧ Gives none rest later := by
  rcases entry with ⟨_ | k, d⟩
  · rcases h with _ | ⟨⟨⟩, -⟩
  · rcases h with _ | ⟨first, more⟩
    cases first with
    | key laid names =>
      rcases more with _ | ⟨second, later⟩
      cases second with
      | value _ => exact ⟨k, _, _, _, _, rfl, laid, names, rfl, later⟩

/-- Every key of a map is given a value under the text that output shows for it. -/
theorem mem_of_gives (h : Gives none (entries.flatMap entryParts) given) :
    ∀ entry ∈ entries, ∀ k ∈ entry.1, ∃ key v, k.LaysOut key ∧ (key.display, v) ∈ given := by
  induction entries generalizing given with
  | nil => simp
  | cons entry rest ih =>
    rcases gives_entry h with ⟨k, key, name, v, later, keyed, laid, names, rfl, more⟩
    refine List.forall_mem_cons.mpr ⟨?_, ?_⟩
    · intro k' there
      cases keyed.symm.trans there
      exact ⟨key, v, laid, names.display_eq ▸ List.mem_cons_self⟩
    · intro entry' among k' there
      rcases ih more entry' among k' there with ⟨key', v', laid', found⟩
      exact ⟨key', v', laid', List.mem_cons_of_mem _ found⟩

theorem keys_contained {fields : Record Value} (h : (map entries).build = .ok (.object fields)) :
    ∀ entry ∈ entries, ∀ k ∈ entry.1, ∀ key, k.build = .ok key →
      (Record.get? key.display fields).isSome = true := by
  intro entry among k there key built
  cases (decides_build (map entries)).of_ok h with
  | mapping given held =>
    rcases mem_of_gives given entry among k there with ⟨key', v, laid, found⟩
    cases built.symm.trans (build_of_laysOut laid)
    rw [held.eq]
    exact Record.get?_addAll_of_mem found []

end Description

/-! ## Guarded entries -/

section Guarded

variable {r : Rendering} {run : Run} {root : String} {segments : List Segment} {e : Expr}
  {fields : Record Value} {key : Value}

theorem Rendering.taken_of_eval {test : Expr} {b : Bool} (h : r.eval run test = .ok (.bool b)) :
    r.taken run (some test) false = .ok b := by
  rw [taken, h]
  cases b <;> rfl

theorem Context.Leads.unique {strict : Bool} {ctx : Context} {first second : Option Value}
    (h : ctx.Leads strict root segments first) (h' : ctx.Leads strict root segments second) :
    first = second := by
  rcases h with ⟨start, defined, follows⟩
  rcases h' with ⟨start', defined', follows'⟩
  rw [defined] at defined'
  cases defined'
  rw [follows] at follows'
  exact Except.ok.inj follows'

theorem Rendering.evalOutput_plain (r : Rendering) (run : Run) (e : Expr) :
    r.evalOutput run ⟨e, []⟩ = r.eval run e := by
  rw [evalOutput]
  cases r.eval run e <;> rfl

/-- Where the condition is decided, the entry is output or the node does nothing. -/
theorem Rendering.renderNode_guardedEntry {contained : Bool}
    (h : r.eval run (.compare .contains (.path root segments) e) = .ok (.bool contained))
    (inner : Option (List Node → Step)) (line : Nat) :
    r.renderNode inner (guardedEntry line root segments e) run =
      if contained then
        (r.eval run (.path root (segments ++ [.index e]))).map fun v => run.write v.display
      else .ok run := by
  rw [guardedEntry, Node.container, renderNode]
  change r.renderBranchesOf inner _ run = _
  rw [renderBranchesOf, branchNode, Node.container, renderBranches_branch, taken_of_eval h]
  cases contained with
  | false =>
    change r.renderBranches inner [] run = _
    rw [renderBranches]
    rfl
  | true =>
    change r.renderChildren inner (some _) run = _
    rw [renderChildren, renderNodes_singleton, Node.leaf, renderNode]
    change r.evalOutput run _ >>= _ = _
    rw [evalOutput_plain]
    cases r.eval run (.path root (segments ++ [.index e])) <;> rfl

/-- A condition on an object asks for the text of the key. -/
theorem eval_contains
    (leads : run.context.Leads r.options.strictVariables root segments (some (.object fields)))
    (known : r.eval run e = .ok key) :
    r.eval run (.compare .contains (.path root segments) e) =
      .ok (.bool (Record.get? key.display fields).isSome) :=
  Expr.eval_compare .contains leads.eval known

/-- A text leads from an object to the entry under it. -/
theorem leads_of_text {name : String} {v : Value}
    (leads : run.context.Leads r.options.strictVariables root segments (some (.object fields)))
    (known : r.eval run e = .ok (.text name)) (there : Record.get? name fields = some v) :
    run.context.Leads r.options.strictVariables root (segments ++ [.index e]) (some v) :=
  Value.step?_own there ▸ leads.index known

theorem leads_nowhere
    (leads : run.context.Leads r.options.strictVariables root segments (some (.object fields)))
    (known : r.eval run e = .ok key) (other : ∀ name, key ≠ .text name) :
    run.context.Leads r.options.strictVariables root (segments ++ [.index e]) none :=
  Value.step?_object_of_other other ▸ leads.index known

theorem Rendering.renderNode_of_text {name : String} {v : Value}
    (leads : run.context.Leads r.options.strictVariables root segments (some (.object fields)))
    (known : r.eval run e = .ok (.text name)) (there : Record.get? name fields = some v)
    (inner : Option (List Node → Step)) (line : Nat) :
    r.renderNode inner (guardedEntry line root segments e) run = .ok (run.write v.display) := by
  have held : (Record.get? (Value.text name).display fields).isSome = true := by
    rw [Value.display, there]
    rfl
  have value : r.eval run (.path root (segments ++ [.index e])) = .ok v :=
    (leads_of_text leads known there).eval
  rw [renderNode_guardedEntry (eval_contains leads known), held, if_pos rfl, value]
  rfl

theorem Rendering.renderNode_of_other
    (leads : run.context.Leads r.options.strictVariables root segments (some (.object fields)))
    (known : r.eval run e = .ok key) (held : (Record.get? key.display fields).isSome = true)
    (other : ∀ name, key ≠ .text name) (inner : Option (List Node → Step)) (line : Nat) :
    r.renderNode inner (guardedEntry line root segments e) run =
      if r.options.strictVariables then
        .fault (.undefinedVariable (Expr.path root (segments ++ [.index e])).shown)
      else .ok run := by
  have value : r.eval run (.path root (segments ++ [.index e])) =
      definedOr r.options.strictVariables (Expr.path root (segments ++ [.index e])).shown none :=
    (leads_nowhere leads known other).eval
  rw [renderNode_guardedEntry (eval_contains leads known), held, if_pos rfl, value,
    definedOr]
  split
  · rfl
  · change Except.ok (run.write Value.nil.display) = _
    rw [Value.display, Run.write, String.append_empty]

/-- An object contains a key if it has an entry under the text of the key, and so it contains every
key of the data that it is laid out by. Where it contains a key, the path with that key is defined
exactly if the key is a text. Under the condition a text leads to the entry, which is written; any
other key leads nowhere, which strict mode does not pass over. -/
theorem contains_readable_iff_text
    (leads : run.context.Leads r.options.strictVariables root segments (some (.object fields)))
    (known : r.eval run e = .ok key) :
    let contained := (Record.get? key.display fields).isSome
    let entry := segments ++ [.index e]
    r.eval run (.compare .contains (.path root segments) e) = .ok (.bool contained) ∧
    (∀ entries, (Description.map entries).build = .ok (.object fields) →
      ∀ k d, (some k, d) ∈ entries → k.build = .ok key → contained = true) ∧
    (contained = true →
      ((∃ v, run.context.Leads r.options.strictVariables root entry (some v)) ↔
        ∃ name, key = .text name)) ∧
    (∀ name v, key = .text name → Record.get? name fields = some v →
      run.context.Leads r.options.strictVariables root entry (some v) ∧
      r.eval run (.path root entry) = .ok v ∧
      ∀ inner line, r.renderNode inner (guardedEntry line root segments e) run =
        .ok (run.write v.display)) ∧
    (contained = true → (∀ name, key ≠ .text name) →
      run.context.Leads r.options.strictVariables root entry none ∧
      ∀ inner line, r.renderNode inner (guardedEntry line root segments e) run =
        if r.options.strictVariables then
          .fault (.undefinedVariable (Expr.path root entry).shown)
        else .ok run) ∧
    (contained = false → ∀ inner line,
      r.renderNode inner (guardedEntry line root segments e) run = .ok run) := by
  intro contained entry
  have condition : r.eval run (.compare .contains (.path root segments) e) =
    .ok (.bool contained) := eval_contains leads known
  refine ⟨condition, ?_, ?_, ?_, ?_, ?_⟩
  · intro entries built k d there keyed
    exact Description.keys_contained built _ there k rfl key keyed
  · intro there
    constructor
    · rintro ⟨v, defined⟩
      by_contra noText
      cases defined.unique (leads_nowhere leads known fun name hk => noText ⟨name, hk⟩)
    · rintro ⟨name, rfl⟩
      rcases Option.isSome_iff_exists.mp there with ⟨v, there⟩
      rw [Value.display] at there
      exact ⟨v, leads_of_text leads known there⟩
  · rintro name v rfl there
    have defined := leads_of_text leads known there
    exact ⟨defined, defined.eval, Rendering.renderNode_of_text leads known there⟩
  · intro held other
    exact ⟨leads_nowhere leads known other, Rendering.renderNode_of_other leads known held other⟩
  · intro absent inner line
    rw [Rendering.renderNode_guardedEntry condition, absent, if_neg Bool.false_ne_true]

/-- A text key of data whose keys are an integer and a truth value: it leads to the entry that the
integer was laid out for. -/
theorem contains_readable_iff_text_of_data :
    let data : Description := .map [(some (.signed 1), .text "x"), (some (.truth true), .nothing)]
    let fields : Record Value := [("1", .text "x"), ("true", .nil)]
    let r : Rendering :=
      ⟨{ Options.usual with strictVariables := true }, .direct Library.empty.read⟩
    let run : Run := ⟨.initial (.object [("k", .text "1"), ("m", .object fields)]), [], ""⟩
    data.build = .ok (.object fields) ∧
      compile "\x7b% if m contains k %\x7d\x7b\x7b m[k] \x7d\x7d\x7b% endif %\x7d" =
        .ok [guardedEntry 1 "m" [] (.path "k" [])] ∧
      run.context.Leads true "m" [] (some (.object fields)) ∧
      r.eval run (.path "k" []) = .ok (.text "1") ∧
      ∀ inner, r.renderNode inner (guardedEntry 1 "m" [] (.path "k" [])) run =
        .ok (run.write "x") := by
  intro data fields r run
  have leads : run.context.Leads true "m" [] (some (.object fields)) := ⟨_, rfl, rfl⟩
  have known : r.eval run (.path "k" []) = .ok (.text "1") := by with_unfolding_all rfl
  have readable := contains_readable_iff_text (r := r) leads known
  refine ⟨rfl, by with_unfolding_all rfl, leads, known, ?_⟩
  intro inner
  exact (readable.2.2.2.1 "1" (.text "x") rfl rfl).2.2 inner 1

/-- An integer key of data is contained in the object that is laid out, and still the entry is not
found under it. -/
theorem contains_readable_iff_text_of_integer :
    let data : Description := .map [(some (.text "k"), .signed 1),
      (some (.text "m"), .map [(some (.signed 1), .text "x")])]
    let ctx : Context := .initial (.object [("k", .int 1), ("m", .object [("1", .text "x")])])
    let options := { Options.usual with strictVariables := true }
    ∃ nodes, data.build = .ok (.object [("k", .int 1), ("m", .object [("1", .text "x")])]) ∧
      compile "\x7b% if m contains k %\x7d\x7b\x7b m[k] \x7d\x7d\x7b% endif %\x7d" = .ok nodes ∧
      (Expr.compare .contains (.path "m" []) (.path "k" [])).eval true ctx = .ok (.bool true) ∧
      (Expr.path "m" [.index (.path "k" [])]).eval true ctx = .fault (.undefinedVariable "m[k]") ∧
      renderTemplate options Library.empty.read nodes
        (.object [("k", .int 1), ("m", .object [("1", .text "x")])]) =
          .fault (.undefinedVariable "m[k]") := by
  intro data ctx options
  refine ⟨[guardedEntry 1 "m" [] (.path "k" [])], rfl, by with_unfolding_all rfl, ?_, ?_, ?_⟩
  · with_unfolding_all rfl
  · with_unfolding_all rfl
  · with_unfolding_all rfl

end Guarded
end TemplateSite
