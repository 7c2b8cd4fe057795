import TemplateSite.Proofs.Decimal.Integer
import TemplateSite.Proofs.Render.Simulation

/-!
# Windows of loops

An offset and a limit make a window on what a collection offers, and a loop renders its body once
for each item in the window, in order or from the end. Every time the body starts from the state
that the time before it left, in a scope with the item and its place in the loop.
-/
namespace TemplateSite

/-- What a collection offers to a loop: the items of a list, the pairs of a name and its value in an
object in ascending order of the names, or a text that is not empty. -/
inductive Value.Offers : Value → List Value → Prop where
  | list (items : List Value) : Offers (.list items) items
  | object {fields entries : Record Value} (record : fields.Ordered) (ascending : entries.Ordered)
    (members : ∀ name value, (name, value) ∈ entries ↔ fields.get? name = some value) :
    Offers (.object fields) (entries.map fun entry => .list [.text entry.1, entry.2])
  | text {s : String} (full : s ≠ "") : Offers (.text s) [.text s]
  | nothing {v : Value} (noList : ∀ items, v ≠ .list items) (noObject : ∀ fields, v ≠ .object fields)
    (noText : ∀ s, v = .text s → s = "") : Offers v []

/-- Whether a position is in the window of an offset and a limit. A negative one is zero; without a
limit the window has no end. -/
def inWindow (offset limit : Option Int64) (position : Nat) : Bool :=
  let start : Int := offset.elim 0 fun n => max n.toInt 0
  decide (start ≤ position) && limit.elim true fun n => decide (position < start + max n.toInt 0)

/-- The items in the window of an offset and a limit. -/
def windowOf (offset limit : Option Int64) (items : List Value) : List Value :=
  (items.zipIdx.filter fun entry => inWindow offset limit entry.2).map Prod.fst

/-- The field of a value is an integer. -/
def Value.HasInteger (v : Value) (name : String) (n : Int) : Prop :=
  ∃ i : Int64, v.get? (.text name) = some (.int i) ∧ i.toInt = n

/-- A value tells the place of the iteration `k` in a loop of `m` iterations, counted from zero. -/
structure Value.TellsPlace (k m : Nat) (v : Value) : Prop where
  index : v.HasInteger "index" (k + 1)
  index0 : v.HasInteger "index0" k
  rindex : v.HasInteger "rindex" (m - k)
  rindex0 : v.HasInteger "rindex0" (m - k - 1)
  rindex0_nonneg : 0 ≤ (m - k - 1 : Int)
  length : v.HasInteger "length" m
  first : v.get? (.text "first") = some (.bool (decide (k = 0)))
  last : v.get? (.text "last") = some (.bool (decide ((k : Int) = m - 1)))

/-- What names stand for in an iteration: the item and the place in the loop, and what they stand
for outside. -/
structure Context.InIteration (name : String) (item : Value) (index length : Nat)
    (outside inside : Context) : Prop where
  item : name ≠ "forloop" → inside.get? name = some item
  place : ∃ info, inside.get? "forloop" = some info ∧ info.TellsPlace index length
  others : ∀ other, other ≠ name → other ≠ "forloop" → inside.get? other = outside.get? other

namespace Rendering

/-- A bound of a loop is absent, or its value is an integer. -/
inductive Bounds (r : Rendering) (run : Run) : Option Expr → Option Int64 → Prop where
  | absent : Bounds r run none none
  | given {e : Expr} {n : Int64} (h : r.eval run e = .ok (.int n)) : Bounds r run (some e) (some n)

def inIteration (name : String) (item : Value) (index length : Nat) (run : Run) : Run :=
  run.onContext fun ctx => ctx.push (loopScope name item index length)

/-- The states after as many iterations over the items. -/
inductive Iterated (body : Step) (name : String) (items : List Value) (start : Run) :
    Nat → Run → Prop where
  | none : Iterated body name items start 0 start
  | more {index : Nat} {before after : Run} (earlier : Iterated body name items start index before)
    (inside : index < items.length)
    (rendered : body (inIteration name items[index] index items.length before) = .ok after) :
    Iterated body name items start (index + 1) (after.onContext Context.pop)

/-- What a loop over items does. The body is rendered once for each of them, in order, and the loop
fails where the first of these renderings fails. In an iteration the item and the place have names;
the places are counted in 64 bits, which are enough for every list that a machine can hold. -/
structure GoesThrough (body : Step) (name : String) (items : List Value) (start : Run)
    (outcome : Outcome Run) : Prop where
  succeeds : ∀ last, outcome = .ok last ↔ Iterated body name items start items.length last
  fails : ∀ failure, outcome = .error failure ↔
    ∃ k, ∃ inside : k < items.length, ∃ before, Iterated body name items start k before ∧
      body (inIteration name items[k] k items.length before) = .error failure
  names : Decimal.Fits items.length → ∀ k, ∀ inside : k < items.length, ∀ before : Run,
    Context.InIteration name items[k] k items.length before.context
      (inIteration name items[k] k items.length before).context

end Rendering

/-! ## The window -/

/-- What is inside a stretch of positions is what is left after dropping and taking. -/
theorem map_fst_filter_zipIdx {α : Type} {inside : Nat → Bool} {start count index : Nat}
    {items : List α} (h : ∀ i, index ≤ i → i < index + items.length →
      (inside i = true ↔ index + start ≤ i ∧ i < index + start + count)) :
    ((items.zipIdx index).filter fun entry => inside entry.2).map Prod.fst =
      (items.drop start).take count := by
  induction items generalizing start count index with
  | nil => simp
  | cons item rest ih =>
    rw [List.length_cons] at h
    have here := h index le_rfl (by omega)
    rw [List.zipIdx_cons]
    cases start with
    | succ start =>
      rw [List.filter_cons_of_neg fun is => by have := here.mp is; omega, List.drop_succ_cons]
      exact ih fun i low high => by rw [h i (by omega) (by omega)]; omega
    | zero =>
      cases count with
      | zero =>
        rw [List.filter_cons_of_neg fun is => by have := here.mp is; omega, List.take_zero]
        exact @ih 0 0 _ fun i low high => by rw [h i (by omega) (by omega)]; omega
      | succ count =>
        have first : inside index = true := here.mpr (by omega)
        rw [List.filter_cons_of_pos (by exact first), List.map_cons, List.drop_zero,
          List.take_succ_cons]
        exact congrArg _ (@ih 0 _ _ fun i low high => by rw [h i (by omega) (by omega)]; omega)

def cutBy (bound : LoopBound) (n : Option Int64) (items : List Value) : List Value :=
  n.elim items fun n => Rendering.cutItems bound n.toInt.toNat items

theorem windowOf_eq (offset limit : Option Int64) (items : List Value) :
    windowOf offset limit items = cutBy .limit limit (cutBy .offset offset items) := by
  let start : Nat := offset.elim 0 fun n => n.toInt.toNat
  have clamped : (offset.elim 0 fun n => max n.toInt 0 : Int) = start := by
    cases offset with
    | none => rfl
    | some n => exact (Int.ofNat_toNat n.toInt).symm
  have rest : cutBy .offset offset items = items.drop start := by
    cases offset <;> rfl
  rw [rest, windowOf]
  cases limit with
  | none =>
    have all : (items.drop start).take items.length = items.drop start :=
      List.take_of_length_le (by rw [List.length_drop]; omega)
    change _ = items.drop start
    rw [← all, ← map_fst_filter_zipIdx]
    intro i _ high
    rw [inWindow, clamped, Option.elim_none, Bool.and_true, decide_eq_true_eq]
    omega
  | some n =>
    change _ = (items.drop start).take n.toInt.toNat
    rw [← map_fst_filter_zipIdx]
    intro i _ _
    rw [inWindow, clamped, Option.elim_some, Bool.and_eq_true, decide_eq_true_eq,
      decide_eq_true_eq]
    omega

theorem Value.Offers.collectionItems_eq {v : Value} {items : List Value} (h : v.Offers items) :
    Rendering.collectionItems v = items := by
  cases h with
  | list => rfl
  | object record ascending members =>
    refine congrArg (List.map _) (record.ext ascending fun name => ?_)
    ext value
    rw [← ascending.mem_iff, members]
  | text full => exact if_neg (by simpa using full)
  | nothing noList noObject noText =>
    cases v with
    | list items => exact absurd rfl (noList items)
    | object fields => exact absurd rfl (noObject fields)
    | text s => rw [noText s rfl]; rfl
    | _ => rfl

namespace Rendering

variable {r : Rendering} {run : Run} {collection : Value} {items : List Value}
  {offset limit : Option Int64} {spec : LoopSpec}

theorem Bounds.applyBound_eq {e : Option Expr} {n : Option Int64} (h : r.Bounds run e n)
    (bound : LoopBound) (items : List Value) :
    r.applyBound run bound e items = .ok (cutBy bound n items) := by
  cases h with
  | absent => rfl
  | given he =>
    rw [applyBound, loopBound, he]
    rfl

/-- A bound that is no integer is a fault. -/
theorem applyBound_of_not_int {e : Expr} {v : Value} (he : r.eval run e = .ok v)
    (other : ∀ n, v ≠ .int n) (bound : LoopBound) (items : List Value) :
    r.applyBound run bound (some e) items = .fault (.type (.loopBound bound v.kind)) := by
  rw [applyBound, loopBound, he]
  cases v with
  | int n => exact absurd rfl (other n)
  | _ => rfl

theorem loopItems_eq (hc : r.eval run spec.collection = .ok collection)
    (offers : collection.Offers items) (ho : r.Bounds run spec.offset offset)
    (hl : r.Bounds run spec.limit limit) : r.loopItems run spec =
      .ok (if spec.reversed then (windowOf offset limit items).reverse
        else windowOf offset limit items) := by
  rw [loopItems, hc, windowOf_eq, ← offers.collectionItems_eq]
  change (r.applyBound run .offset spec.offset _ >>= _) = _
  rw [ho.applyBound_eq]
  change (r.applyBound run .limit spec.limit _ >>= _) = _
  rw [hl.applyBound_eq]
  rfl

/-! ## The iterations -/

theorem forEach_concat (step : Nat → Value → Step) (index : Nat) (items : List Value) (item : Value)
    (run : Run) : forEach step index (items ++ [item]) run =
      forEach step index items run >>= step (index + items.length) item := by
  induction items generalizing index run with
  | nil =>
    rw [List.nil_append, forEach_cons]
    change (step index item run >>= fun run => .ok run) = step index item run
    cases step index item run <;> rfl
  | cons first rest ih =>
    rw [List.cons_append, forEach_cons, forEach_cons, List.length_cons]
    cases step index first run with
    | error failure => rfl
    | ok next =>
      change forEach step (index + 1) (rest ++ [item]) next = forEach step (index + 1) rest next >>= _
      rw [ih, Nat.add_right_comm, Nat.add_assoc]

theorem forEach_take_succ {step : Nat → Value → Step} {k : Nat} (h : k < items.length) (run : Run) :
    forEach step 0 (items.take (k + 1)) run =
      forEach step 0 (items.take k) run >>= step k items[k] := by
  rw [List.take_succ_eq_append_getElem h, forEach_concat, List.length_take, Nat.zero_add,
    Nat.min_eq_left h.le]

section Iterations

variable {body : Step} {k : Nat} {start last : Run} {failure : Failure RenderFault}

theorem renderIteration_eq (spec : LoopSpec) (body : Step) (m k : Nat) (item : Value) (run : Run) :
    renderIteration spec body m k item run =
      (body (inIteration spec.item item k m run)).map fun after => after.onContext Context.pop := by
  rw [renderIteration, inIteration]
  cases body _ <;> rfl

/-- The first iterations of a loop succeed if each of them does, from the state before it. -/
theorem forEach_take_eq_ok_iff (h : k ≤ items.length) :
    forEach (renderIteration spec body items.length) 0 (items.take k) start = .ok last ↔
      Iterated body spec.item items start k last := by
  induction k generalizing last with
  | zero =>
    constructor
    · intro run
      cases run
      exact .none
    · rintro ⟨⟩
      rfl
  | succ k ih =>
    rw [forEach_take_succ h, bind_eq_ok_iff]
    simp only [ih (by omega), renderIteration_eq, map_eq_ok_iff]
    constructor
    · rintro ⟨before, earlier, after, rendered, rfl⟩
      exact .more earlier h rendered
    · rintro (_ | ⟨earlier, _, rendered⟩)
      exact ⟨_, earlier, _, rendered, rfl⟩

/-- The first iterations of a loop fail where one of them does and those before it do not. -/
theorem forEach_take_eq_error_iff (h : k ≤ items.length) :
    forEach (renderIteration spec body items.length) 0 (items.take k) start = .error failure ↔
      ∃ j, ∃ earlier : j < k, ∃ before,
        Iterated body spec.item items start j before ∧
          body (inIteration spec.item items[j] j items.length before) = .error failure := by
  induction k with
  | zero =>
    constructor
    · rintro ⟨⟩
    · rintro ⟨j, none, -⟩
      omega
  | succ k ih =>
    have reached (state : Run) : forEach (renderIteration spec body items.length) 0 (items.take k)
        start = .ok state ↔ Iterated body spec.item items start k state :=
      forEach_take_eq_ok_iff (by omega)
    rw [forEach_take_succ h, bind_eq_error_iff, ih (by omega)]
    simp only [reached, renderIteration_eq, map_eq_error_iff]
    constructor
    · rintro (⟨j, earlier, failed⟩ | failed)
      · exact ⟨j, by omega, failed⟩
      · exact ⟨k, by omega, failed⟩
    · rintro ⟨j, earlier, failed⟩
      rcases Nat.lt_succ_iff_lt_or_eq.mp earlier with less | rfl
      · exact .inl ⟨j, less, failed⟩
      · exact .inr failed

end Iterations

/-! ## The place of an iteration -/

theorem hasInteger_of_count {v : Value} {name : String} {n : Nat} {i : Int} (bounded : n < 2 ^ 63)
    (h : v.get? (.text name) = some (.ofCount n)) (value : (n : Int) = i) : v.HasInteger name i :=
  ⟨_, h, (Int64.toInt_ofNat_of_lt bounded).trans value⟩

theorem tellsPlace_loopInfo {k m : Nat} (inside : k < m) (counted : Decimal.Fits m) :
    (loopInfo k m).TellsPlace k m := by
  have bounded : m < 2 ^ 63 := by
    have most : Int64.maxValue.toInt = 2 ^ 63 - 1 := by decide
    have := counted.2
    omega
  have field (name : String) : (loopInfo k m).get? (.text name) =
      if "length" = name then some (.ofCount m)
      else if "last" = name then some (.bool (k + 1 == m))
      else if "first" = name then some (.bool (k == 0))
      else if "rindex0" = name then some (.ofCount (m - k - 1))
      else if "rindex" = name then some (.ofCount (m - k))
      else if "index0" = name then some (.ofCount k)
      else if "index" = name then some (.ofCount (k + 1)) else none := by
    simp only [loopInfo, Record.ofEntries, List.foldl_cons, List.foldl_nil, Value.get?,
      Record.get?_insert, Record.get?_nil]
  refine ⟨?_, ?_, ?_, ?_, by omega, ?_, ?_, ?_⟩
  · exact hasInteger_of_count (n := k + 1) (by omega) (by simp [field]) (by omega)
  · exact hasInteger_of_count (n := k) (by omega) (by simp [field]) rfl
  · exact hasInteger_of_count (n := m - k) (by omega) (by simp [field]) (by omega)
  · exact hasInteger_of_count (n := m - k - 1) (by omega) (by simp [field]) (by omega)
  · exact hasInteger_of_count (n := m) bounded (by simp [field]) rfl
  · simp [field]
    rfl
  · have last : (k + 1 == m) = decide ((k : Int) = m - 1) := by
      rw [Bool.eq_iff_iff, beq_iff_eq, decide_eq_true_eq]
      omega
    simp [field, last]

theorem inIteration_push {name : String} {item : Value} {k m : Nat} (inside : k < m)
    (counted : Decimal.Fits m) (ctx : Context) :
    Context.InIteration name item k m ctx (ctx.push (loopScope name item k m)) := by
  have found (other : String) : (ctx.push (loopScope name item k m)).get? other =
      if "forloop" = other then some (loopInfo k m)
      else if name = other then some item else ctx.get? other := by
    simp only [Context.get?, Context.push, Context.inScopes?, loopScope, Record.ofEntries,
      List.foldl_cons, List.foldl_nil, Record.get?_insert, Record.get?_nil]
    split_ifs <;> rfl
  refine ⟨?_, ⟨_, ?_, tellsPlace_loopInfo inside counted⟩, ?_⟩
  · intro ne
    rw [found, if_neg (Ne.symm ne), if_pos rfl]
  · rw [found, if_pos rfl]
  · intro other ne ne'
    rw [found, if_neg (Ne.symm ne'), if_neg (Ne.symm ne)]

theorem goesThrough_forEach (spec : LoopSpec) (body : Step) (items : List Value) (start : Run) :
    GoesThrough body spec.item items start
      (forEach (renderIteration spec body items.length) 0 items start) where
  succeeds last := by
    rw [← forEach_take_eq_ok_iff le_rfl, List.take_length]
  fails failure := by
    rw [← forEach_take_eq_error_iff le_rfl, List.take_length]
  names counted k inside before := inIteration_push inside counted before.context

end Rendering

/-- A loop renders its body once for each item in the window of its offset and its limit, in order
or from the end. An offset or a limit that is no integer is a fault, whatever the collection
offers. -/
theorem loop_visits_window (r : Rendering) (inner : Option (List Node → Rendering.Step))
    (spec : LoopSpec) (line : Nat) (file : Option String) (children : Option (List Node))
    {run : Run} {collection : Value} (hc : r.eval run spec.collection = .ok collection) :
    let loop := r.renderNode inner (.mk (.loop spec) line file children) run
    (∀ items offset limit, collection.Offers items → r.Bounds run spec.offset offset →
      r.Bounds run spec.limit limit →
      Rendering.GoesThrough (r.renderChildren inner children) spec.item
        (if spec.reversed then (windowOf offset limit items).reverse
          else windowOf offset limit items) run loop) ∧
    (∀ e v, spec.offset = some e → r.eval run e = .ok v → (∀ n, v ≠ .int n) →
      loop = .fault (.type (.loopBound .offset v.kind))) ∧
    (∀ offset e v, r.Bounds run spec.offset offset → spec.limit = some e → r.eval run e = .ok v →
      (∀ n, v ≠ .int n) → loop = .fault (.type (.loopBound .limit v.kind))) := by
  intro loop
  have rendered : loop = r.renderLoop spec (r.renderChildren inner children) run := by
    change r.renderNode inner (.mk (.loop spec) line file children) run = _
    rw [Rendering.renderNode]
  rw [rendered, Rendering.renderLoop]
  refine ⟨?_, ?_, ?_⟩
  · intro items offset limit offers ho hl
    rw [Rendering.loopItems_eq hc offers ho hl]
    exact Rendering.goesThrough_forEach spec _ _ run
  · intro e v given he other
    rw [Rendering.loopItems, hc, given]
    change ((r.applyBound run .offset (some e) _ >>= _) >>= _) = _
    rw [Rendering.applyBound_of_not_int he other]
    rfl
  · intro offset e v ho given he other
    rw [Rendering.loopItems, hc, given]
    change ((r.applyBound run .offset _ _ >>= _) >>= _) = _
    rw [ho.applyBound_eq]
    change ((r.applyBound run .limit (some e) _ >>= _) >>= _) = _
    rw [Rendering.applyBound_of_not_int he other]
    rfl

/-- The last two entries of an object, from the end, and an offset that is a text. -/
theorem loop_visits_window_of_object :
    let fields : Record Value := [("a", .int 1), ("b", .int 2), ("c", .int 3)]
    let pair (name : String) (n : Int64) : Value := .list [.text name, .int n]
    let r : Rendering := ⟨Options.usual, .direct fun _ => .error .notFound⟩
    let run : Run := ⟨.initial (.object [("m", .object fields)]), [], ""⟩
    let spec (offset : Value) : LoopSpec :=
      ⟨"x", .path "m" [], some (.literal (.int 5)), some (.literal offset), true⟩
    let body : List Node :=
      [.mk (.output ⟨.path "x" [.index (.literal (.int 0))], []⟩) 1 none none,
        .mk (.output ⟨.path "forloop" [.key "rindex0"], []⟩) 1 none none]
    let loop (offset : Value) := r.renderNode none (.mk (.loop (spec offset)) 1 none (some body)) run
    (Value.object fields).Offers [pair "a" 1, pair "b" 2, pair "c" 3] ∧
      windowOf (some 1) (some 5) [pair "a" 1, pair "b" 2, pair "c" 3] = [pair "b" 2, pair "c" 3] ∧
      (∃ last, loop (.int 1) = .ok last ∧ last.out = "c1b0" ∧
        Rendering.Iterated (r.renderChildren none (some body)) "x" [pair "c" 3, pair "b" 2] run 2
          last) ∧
      loop (.text "1") = .fault (.type (.loopBound .offset .string)) := by
  intro fields pair r run spec body loop
  have ordered : fields.Ordered := by
    rw [Record.Ordered]
    decide
  have offers := Value.Offers.object ordered ordered fun _ _ => ordered.mem_iff
  have window : windowOf (some 1) (some 5) [pair "a" 1, pair "b" 2, pair "c" 3] =
      [pair "b" 2, pair "c" 3] := by rfl
  have collection : ∀ offset, r.eval run (spec offset).collection = .ok (.object fields) := by
    intro offset
    with_unfolding_all rfl
  have literal : ∀ v, r.eval run (.literal v) = .ok v := by
    intro v
    with_unfolding_all rfl
  have through := (loop_visits_window r none (spec (.int 1)) 1 none (some body)
    (collection (.int 1))).1 _ _ _ offers (.given (literal _)) (.given (literal _))
  have refused := (loop_visits_window r none (spec (.text "1")) 1 none (some body)
    (collection (.text "1"))).2.1 _ _ rfl (literal _) (by simp)
  have visited : (if (spec (.int 1)).reversed then (windowOf (some 1) (some 5)
      (fields.map fun entry => .list [.text entry.1, entry.2])).reverse
      else windowOf (some 1) (some 5) (fields.map fun entry => .list [.text entry.1, entry.2])) =
      [pair "c" 3, pair "b" 2] := congrArg List.reverse window
  rw [visited] at through
  have written : (loop (.int 1)).toOption.any fun last => last.out = "c1b0" := by decide
  rcases exists_eq_ok_of_any written with ⟨last, done, out⟩
  exact ⟨offers, window, ⟨last, done, of_decide_eq_true out, (through.succeeds last).mp done⟩,
    refused⟩

end TemplateSite
