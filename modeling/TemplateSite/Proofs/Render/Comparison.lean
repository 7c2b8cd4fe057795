import TemplateSite.Proofs.Decimal.Double
import TemplateSite.Proofs.Text.Octets
import TemplateSite.Render.Evaluate

/-!
# Comparing values without doubles

In a condition, values without doubles are compared by what they are: equality is structural,
integers are in the order of the integers, texts in that of their octets, and no other values are in
any order. The exception are two integers that are rounded to the same double, which are taken for
equal.
-/
namespace TemplateSite

namespace Value

/-- There is no double in a value, at any depth. -/
inductive FloatFree : Value → Prop where
  | nil : FloatFree .nil
  | bool (b : Bool) : FloatFree (.bool b)
  | int (n : Int64) : FloatFree (.int n)
  | text (s : String) : FloatFree (.text s)
  | list {items : List Value} (h : ∀ item ∈ items, FloatFree item) : FloatFree (.list items)
  | object {fields : List (String × Value)} (h : ∀ field ∈ fields, FloatFree field.2) :
    FloatFree (.object fields)

/-- Two different integers that are rounded to the same double. -/
def Confused (a b : Value) : Prop :=
  ∃ x y : Int64, a = .int x ∧ b = .int y ∧ x ≠ y ∧
    Decimal.roundedInteger x.toInt = Decimal.roundedInteger y.toInt

theorem Confused.symm {a b : Value} (h : a.Confused b) : b.Confused a := by
  rcases h with ⟨x, y, hx, hy, ne, same⟩
  exact ⟨y, x, hy, hx, ne.symm, same.symm⟩

/-- The four orders are between two values as they are between what the values stand for. -/
structure OrderedAs {α : Type} [LT α] [LE α] (a b : Value) (x y : α) : Prop where
  lt : Comparison.lt.decide a b = true ↔ x < y
  gt : Comparison.gt.decide a b = true ↔ y < x
  le : Comparison.le.decide a b = true ↔ x ≤ y
  ge : Comparison.ge.decide a b = true ↔ y ≤ x

/-- None of the four orders is between two values. -/
structure Unordered (a b : Value) : Prop where
  lt : Comparison.lt.decide a b = false
  gt : Comparison.gt.decide a b = false
  le : Comparison.le.decide a b = false
  ge : Comparison.ge.decide a b = false

/-! ## Structural equality -/

section Same

variable {a b : Value}

theorem sameItems_iff {items others : List Value}
    (h : ∀ item ∈ items, ∀ other, same item other = true ↔ item = other) :
    sameItems items others = true ↔ items = others := by
  induction items generalizing others with
  | nil => cases others <;> simp [sameItems]
  | cons item rest ih =>
    rw [List.forall_mem_cons] at h
    cases others with
    | nil => simp [sameItems]
    | cons other others => rw [sameItems, Bool.and_eq_true, h.1, ih h.2, List.cons.injEq]

theorem sameFields_iff {fields others : List (String × Value)}
    (h : ∀ field ∈ fields, ∀ other, same field.2 other = true ↔ field.2 = other) :
    sameFields fields others = true ↔ fields = others := by
  induction fields generalizing others with
  | nil => cases others <;> simp [sameFields]
  | cons field rest ih =>
    rw [List.forall_mem_cons] at h
    rcases field with ⟨name, value⟩
    cases others with
    | nil => simp [sameFields]
    | cons other others =>
      rcases other with ⟨name', value'⟩
      rw [sameFields, Bool.and_eq_true, Bool.and_eq_true, beq_iff_eq, h.1, ih h.2,
        List.cons.injEq, Prod.mk.injEq]

/-- On values without doubles structural equality is equality. -/
theorem same_iff (h : a.FloatFree) : a.same b = true ↔ a = b := by
  induction h generalizing b with
  | nil => cases b <;> simp [same]
  | bool => cases b <;> simp [same]
  | int => cases b <;> simp [same]
  | text => cases b <;> simp [same]
  | list _ ih =>
    cases b with
    | list others =>
      rw [same, sameItems_iff fun item there other => ih item there, Value.list.injEq]
    | _ => simp [same]
  | object _ ih =>
    cases b with
    | object others =>
      rw [same, sameFields_iff fun field there other => ih field there, Value.object.injEq]
    | _ => simp [same]

end Same

/-! ## The two ways to compare -/

section Ways

variable {a b : Value} {x y : Int64}

theorem FloatFree.exists_int {f : Float} (h : a.FloatFree) (number : a.asFloat? = some f) :
    ∃ n, a = .int n := by
  cases h with
  | int n => exact ⟨n, rfl⟩
  | _ => cases number

/-- Values that are not both integers are not compared as doubles. -/
theorem FloatFree.not_both (ha : a.FloatFree) (hb : b.FloatFree)
    (other : ∀ x y, a = .int x → b ≠ .int y) {f g : Float} (hf : a.asFloat? = some f)
    (hg : b.asFloat? = some g) : False := by
  rcases ha.exists_int hf with ⟨x, hx⟩
  rcases hb.exists_int hg with ⟨y, hy⟩
  exact other x y hx hy

theorem equals_int : (int x).equals (.int y) = true ↔
    Decimal.roundedInteger x.toInt = Decimal.roundedInteger y.toInt :=
  Decimal.nearestInteger_beq_iff x y

theorem equals_eq_same (ha : a.FloatFree) (hb : b.FloatFree)
    (other : ∀ x y, a = .int x → b ≠ .int y) : a.equals b = a.same b := by
  rw [equals]
  split
  · rename_i f g hf hg
    exact (ha.not_both hb other hf hg).elim
  · rfl

theorem compare?_int : (int x).compare? (.int y) =
    some (compare (Decimal.roundedInteger x.toInt) (Decimal.roundedInteger y.toInt)) :=
  Decimal.compareFloats?_nearestInteger x y

theorem compare?_eq_none (ha : a.FloatFree) (hb : b.FloatFree)
    (noInts : ∀ x y, a = .int x → b ≠ .int y) (noTexts : ∀ s t, a = .text s → b ≠ .text t) :
    a.compare? b = none := by
  rw [compare?]
  · split
    · rename_i f g hf hg
      exact (ha.not_both hb noInts hf hg).elim
    · rfl
  · exact noTexts

end Ways

/-! ## The comparisons -/

section Orders

variable {a b : Value} {x y : Int64}

theorem rounded_eq_iff (clear : ¬ (int x).Confused (.int y)) :
    Decimal.roundedInteger x.toInt = Decimal.roundedInteger y.toInt ↔ x = y := by
  constructor
  · intro same
    by_contra ne
    exact clear ⟨x, y, rfl, rfl, ne, same⟩
  · rintro rfl
    rfl

theorem rounded_lt_iff (clear : ¬ (int x).Confused (.int y)) :
    Decimal.roundedInteger x.toInt < Decimal.roundedInteger y.toInt ↔ x.toInt < y.toInt := by
  constructor
  · intro less
    by_contra more
    exact absurd (Decimal.roundedInteger_mono (not_lt.mp more)) (not_le.mpr less)
  · intro less
    refine lt_of_le_of_ne (Decimal.roundedInteger_mono less.le) ?_
    rw [Ne, rounded_eq_iff clear]
    rintro rfl
    exact lt_irrefl _ less

theorem equals_iff (ha : a.FloatFree) (hb : b.FloatFree) (clear : ¬ a.Confused b) :
    a.equals b = true ↔ a = b := by
  by_cases ints : ∃ x y, a = .int x ∧ b = .int y
  · rcases ints with ⟨x, y, rfl, rfl⟩
    rw [equals_int, rounded_eq_iff clear, Value.int.injEq]
  · push Not at ints
    rw [equals_eq_same ha hb ints, same_iff ha]

theorem orderedAs_of_compare? {α : Type} [LT α] [LE α] {x y : α} {o : Ordering}
    (h : a.compare? b = some o) (lt : o = .lt ↔ x < y) (gt : o = .gt ↔ y < x)
    (le : x ≤ y ↔ ¬ y < x) (ge : y ≤ x ↔ ¬ x < y) : a.OrderedAs b x y := by
  refine ⟨?_, ?_, ?_, ?_⟩
  · rw [← lt, Comparison.decide, h, beq_iff_eq, Option.some_inj]
  · rw [← gt, Comparison.decide, h, beq_iff_eq, Option.some_inj]
  · rw [le, ← gt, Comparison.decide, h]
    cases o <;> decide
  · rw [ge, ← lt, Comparison.decide, h]
    cases o <;> decide

theorem orderedAs_rounded (x y : Int64) : (int x).OrderedAs (.int y)
    (Decimal.roundedInteger x.toInt) (Decimal.roundedInteger y.toInt) :=
  orderedAs_of_compare? compare?_int compare_lt_iff_lt compare_gt_iff_gt not_lt.symm not_lt.symm

theorem orderedAs_int (clear : ¬ (int x).Confused (.int y)) :
    (int x).OrderedAs (.int y) x.toInt y.toInt := by
  have clear' : ¬ (int y).Confused (.int x) := mt Confused.symm clear
  have rounded := orderedAs_rounded x y
  refine ⟨?_, ?_, ?_, ?_⟩
  · rw [rounded.lt, rounded_lt_iff clear]
  · rw [rounded.gt, rounded_lt_iff clear']
  · rw [rounded.le, ← not_lt, rounded_lt_iff clear', not_lt]
  · rw [rounded.ge, ← not_lt, rounded_lt_iff clear, not_lt]

theorem orderedAs_text (s t : String) :
    (text s).OrderedAs (.text t) (Text.octets s) (Text.octets t) := by
  have order : (text s).compare? (.text t) = some (compare s t) :=
    congrArg some (LinearOrder.compare_eq_compareOfLessAndEq s t).symm
  refine orderedAs_of_compare? order ?_ ?_ List.not_lt.symm List.not_lt.symm
  · rw [Text.octets_lt_iff, compare_lt_iff_lt]
  · rw [Text.octets_lt_iff, compare_gt_iff_gt]

theorem unordered_of_compare? (h : a.compare? b = none) : a.Unordered b := by
  refine ⟨?_, ?_, ?_, ?_⟩ <;> rw [Comparison.decide, h] <;> rfl

end Orders

end Value

section Conditions

variable {strict : Bool} {ctx : Context} {left right : Expr} {a b : Value}

theorem Expr.eval_compare (op : Comparison) (hl : left.eval strict ctx = .ok a)
    (hr : right.eval strict ctx = .ok b) :
    (Expr.compare op left right).eval strict ctx = .ok (.bool (op.decide a b)) := by
  rw [Expr.eval, hl, hr]
  rfl

open Value

/-- In a condition on two values without doubles, equality is structural, integers and texts have
their orders, other values have none, and a list contains what is one of its items. Two integers are
an exception if they are rounded to the same double: these are taken for equal. Both of them have
more than 53 bits. -/
theorem comparisons_exact (hl : left.eval strict ctx = .ok a) (hr : right.eval strict ctx = .ok b)
    (ha : a.FloatFree) (hb : b.FloatFree) :
    (∀ op, (Expr.compare op left right).eval strict ctx = .ok (.bool (op.decide a b))) ∧
    (¬ a.Confused b → (Comparison.eq.decide a b = true ↔ a = b) ∧
      (Comparison.ne.decide a b = true ↔ a ≠ b)) ∧
    (∀ x y, a = .int x → b = .int y → ¬ a.Confused b → a.OrderedAs b x.toInt y.toInt) ∧
    (∀ s t, a = .text s → b = .text t → a.OrderedAs b (Text.octets s) (Text.octets t)) ∧
    ((∀ x y, a = .int x → b ≠ .int y) → (∀ s t, a = .text s → b ≠ .text t) → a.Unordered b) ∧
    (∀ items, a = .list items → (∀ item ∈ items, ¬ item.Confused b) →
      (Comparison.contains.decide a b = true ↔ b ∈ items)) ∧
    (∀ x y, a = .int x → b = .int y →
      (Comparison.eq.decide a b = true ↔
        Decimal.roundedInteger x.toInt = Decimal.roundedInteger y.toInt) ∧
      a.OrderedAs b (Decimal.roundedInteger x.toInt) (Decimal.roundedInteger y.toInt) ∧
      (a.Confused b → 2 ^ 53 ≤ x.toInt.natAbs ∧ 2 ^ 53 ≤ y.toInt.natAbs)) := by
  refine ⟨fun op => Expr.eval_compare op hl hr, ?_, ?_, ?_, ?_, ?_, ?_⟩
  · intro clear
    have equal := equals_iff ha hb clear
    refine ⟨equal, ?_⟩
    rw [Comparison.decide, Bool.not_eq_true', ← Bool.not_eq_true, equal]
  · rintro x y rfl rfl clear
    exact orderedAs_int clear
  · rintro s t rfl rfl
    exact orderedAs_text s t
  · intro noInts noTexts
    exact unordered_of_compare? (compare?_eq_none ha hb noInts noTexts)
  · rintro items rfl clear
    cases ha with
    | list free =>
      rw [Comparison.decide, holds, List.any_eq_true]
      constructor
      · rintro ⟨item, there, equal⟩
        rw [equals_iff (free item there) hb (clear item there)] at equal
        exact equal ▸ there
      · intro there
        exact ⟨b, there, (equals_iff hb hb (clear b there)).mpr rfl⟩
  · rintro x y rfl rfl
    refine ⟨equals_int, orderedAs_rounded x y, ?_⟩
    rintro ⟨_, _, ⟨⟩, ⟨⟩, ne, same⟩
    have ne : x.toInt ≠ y.toInt := mt Int64.toInt_inj.mp ne
    exact ⟨Decimal.le_natAbs_of_roundedInteger_eq ne same,
      Decimal.le_natAbs_of_roundedInteger_eq ne.symm same.symm⟩

/-- The two ends of the integers, two texts whose order in UTF-16 is another one, and a list that
contains a list. -/
theorem comparisons_exact_of_limits :
    let answer (op : Comparison) (a b : Value) : Outcome Value :=
      (Expr.compare op (.path "a" []) (.path "b" [])).eval true
        (.initial (.object [("a", a), ("b", b)]))
    let least : Value := .int Int64.minValue
    let greatest : Value := .int Int64.maxValue
    let pair : Value := .list [.text "\u00e9", .object [("k", least)]]
    least.FloatFree ∧ greatest.FloatFree ∧ pair.FloatFree ∧ ¬ least.Confused greatest ∧
      answer .lt least greatest = .ok (.bool true) ∧
      answer .ge least greatest = .ok (.bool false) ∧
      answer .lt (.text "\uffff") (.text (.ofList [Char.ofNat 0x1f600])) = .ok (.bool true) ∧
      answer .contains (.list [greatest, pair]) pair = .ok (.bool true) ∧
      answer .le (.list [greatest, pair]) pair = .ok (.bool false) := by
  intro answer least greatest pair
  have first (a b : Value) :
      (Expr.path "a" []).eval true (.initial (.object [("a", a), ("b", b)])) = .ok a := by
    with_unfolding_all rfl
  have second (a b : Value) :
      (Expr.path "b" []).eval true (.initial (.object [("a", a), ("b", b)])) = .ok b := by
    with_unfolding_all rfl
  have hl : least.FloatFree := .int _
  have hg : greatest.FloatFree := .int _
  have fields : ∀ field ∈ [("k", least)], field.2.FloatFree := by
    intro field there
    rw [List.mem_singleton.mp there]
    exact hl
  have hp : pair.FloatFree := by
    refine .list (List.forall_mem_cons.mpr ⟨.text _, ?_⟩)
    intro item there
    rw [List.mem_singleton.mp there]
    exact .object fields
  have hs : (Value.list [greatest, pair]).FloatFree :=
    .list (List.forall_mem_cons.mpr ⟨hg, List.forall_mem_singleton.mpr hp⟩)
  have clear : ¬ least.Confused greatest := by
    rintro ⟨x, y, hx, hy, -, same⟩
    rw [← Value.int.inj hx, ← Value.int.inj hy] at same
    revert same
    decide
  have apart : ∀ item ∈ [greatest, pair], ¬ item.Confused pair := by
    rintro item - ⟨x, y, -, int, -⟩
    simp [pair] at int
  rcases comparisons_exact (first _ _) (second _ _) hl hg with ⟨ints, -, order, -⟩
  rcases comparisons_exact (first _ _) (second _ _) (.text "\uffff")
    (.text (.ofList [Char.ofNat 0x1f600])) with ⟨texts, -, -, octets, -⟩
  rcases comparisons_exact (first _ _) (second _ _) hs hp with
    ⟨lists, -, -, -, unordered, contains, -⟩
  have least_first := order _ _ rfl rfl clear
  have none := unordered (by rintro x y ⟨⟩) (by rintro s t ⟨⟩)
  have not_reversed : Comparison.ge.decide least greatest = false := by
    rw [← Bool.not_eq_true, least_first.ge]
    decide
  refine ⟨hl, hg, hp, clear, ?_, ?_, ?_, ?_, ?_⟩
  · exact (ints .lt).trans (by rw [least_first.lt.mpr (by decide)])
  · exact (ints .ge).trans (by rw [not_reversed])
  · exact (texts .lt).trans (by rw [(octets _ _ rfl rfl).lt.mpr (by decide)])
  · exact (lists .contains).trans (by rw [(contains _ rfl apart).mpr (by simp)])
  · exact (lists .le).trans (by rw [none.le])

/-- The first two integers that are rounded to the same double are taken for equal, and none is the
smaller one. -/
theorem comparisons_exact_beyond_53_bits :
    let a : Value := .int 9007199254740992
    let b : Value := .int 9007199254740993
    let answer (op : Comparison) : Outcome Value :=
      (Expr.compare op (.literal a) (.literal b)).eval false (.initial .nil)
    a.FloatFree ∧ b.FloatFree ∧ a ≠ b ∧ answer .eq = .ok (.bool true) ∧
      (9007199254740992 : Int64).toInt < (9007199254740993 : Int64).toInt ∧
      answer .lt = .ok (.bool false) := by
  intro a b answer
  have decided (op : Comparison) : answer op = .ok (.bool (op.decide a b)) :=
    Expr.eval_compare op (by rw [Expr.eval]) (by rw [Expr.eval])
  have equal : Comparison.eq.decide a b = true := by decide
  have notLess : Comparison.lt.decide a b = false := by decide
  refine ⟨.int _, .int _, ?_, ?_, by decide, ?_⟩
  · exact fun same => absurd (Value.int.inj same) (by decide)
  · rw [decided, equal]
  · rw [decided, notLess]

end Conditions
end TemplateSite
