import Mathlib.Data.List.Basic
import TemplateSite.Proofs.Decimal.Integer
import TemplateSite.Render.Evaluate

/-!
# Ranges

A range is the list of all the integers from one end to the other, in ascending order. It is exact
at every end that 64 bits allow, and can be counted up in words of 64 bits without leaving them.
What is bounded is the difference of the ends, not the number of items, so a range may have one item
more than the bound.
-/
namespace TemplateSite

/-- The integers between two ends, both included, in ascending order. -/
structure Consecutive (first last : Int64) (items : List Int64) : Prop where
  ascending : items.Pairwise fun a b => a.toInt < b.toInt
  members : ∀ n : Int, n ∈ items.map Int64.toInt ↔ first.toInt ≤ n ∧ n ≤ last.toInt

/-- Counts up from one end to the other by steps of one. There is no answer if a step leaves the 64
bits. -/
def countUp (first last : Int64) : Option (List Int64) :=
  if first.toInt < last.toInt then
    match _step : Decimal.int64? (first.toInt + 1) with
    | none => none
    | some next => (countUp next last).map (first :: ·)
  else if first.toInt = last.toInt then some [first] else some []
termination_by (last.toInt - first.toInt).toNat
decreasing_by
  rw [Decimal.int64?_eq_some_iff] at _step
  omega

/-- The difference of two integers, or the nearest one that has 64 bits. -/
def saturatedDifference (a b : Int64) : Int64 :=
  Int64.ofInt (max Int64.minValue.toInt (min (a.toInt - b.toInt) Int64.maxValue.toInt))

/-- A range in words of 64 bits: the difference of the ends is saturated, and the items are counted
up. A step that leaves the 64 bits is a breakdown. -/
def rangeInWords (first last : Int64) : Outcome Value :=
  if maxRangeSpan < (saturatedDifference last first).toInt then
    .fault (.type (.rangeTooLarge first last))
  else (countUp first last).elim (.error .breakdown) fun items => .ok (.list (items.map .int))

namespace Consecutive

variable {first last next : Int64} {items others : List Int64}

theorem mem_bounds (h : Consecutive first last items) {i : Int64} (hi : i ∈ items) :
    first.toInt ≤ i.toInt ∧ i.toInt ≤ last.toInt :=
  (h.members i.toInt).mp (List.mem_map_of_mem hi)

theorem unique (h : Consecutive first last items) (h' : Consecutive first last others) :
    items = others := by
  have ascending : ∀ {items : List Int64}, Consecutive first last items →
      (items.map Int64.toInt).Pairwise (· < ·) := fun h => List.pairwise_map.mpr h.ascending
  have nodup : ∀ {items : List Int64}, Consecutive first last items →
      (items.map Int64.toInt).Nodup := fun h => (ascending h).imp fun less => less.ne
  have members : (items.map Int64.toInt).Perm (others.map Int64.toInt) := by
    rw [List.perm_ext_iff_of_nodup (nodup h) (nodup h')]
    intro n
    rw [h.members, h'.members]
  have same := members.eq_of_pairwise
    (fun _ _ _ _ less more => absurd (less.trans more) (lt_irrefl _)) (ascending h) (ascending h')
  exact List.map_injective_iff.mpr (fun _ _ => Int64.toInt_inj.mp) same

theorem empty (h : last.toInt < first.toInt) : Consecutive first last [] := by
  refine ⟨List.Pairwise.nil, ?_⟩
  intro n
  simp only [List.map_nil, List.not_mem_nil, false_iff]
  omega

theorem single (h : first.toInt = last.toInt) : Consecutive first last [first] := by
  refine ⟨List.pairwise_singleton _ _, ?_⟩
  intro n
  rw [List.map_singleton, List.mem_singleton]
  omega

theorem cons (h : Consecutive next last items) (step : next.toInt = first.toInt + 1)
    (before : first.toInt ≤ last.toInt) : Consecutive first last (first :: items) := by
  refine ⟨List.pairwise_cons.mpr ⟨?_, h.ascending⟩, ?_⟩
  · intro i hi
    have := (h.mem_bounds hi).1
    omega
  · intro n
    rw [List.map_cons, List.mem_cons, h.members]
    omega

end Consecutive

/-- Counting up never leaves the 64 bits, and goes through the integers between the ends. -/
theorem exists_countUp (first last : Int64) :
    ∃ items, countUp first last = some items ∧ Consecutive first last items := by
  fun_induction countUp first last with
  | case1 first less overflow =>
    have low := (Decimal.fits_toInt first).1
    have high := (Decimal.fits_toInt last).2
    exact absurd ⟨by omega, by omega⟩ (Decimal.int64?_eq_none_iff.mp overflow)
  | case2 first less next step ih =>
    rcases ih with ⟨items, counted, consecutive⟩
    exact ⟨first :: items, by rw [counted]; rfl,
      consecutive.cons (Decimal.int64?_eq_some_iff.mp step) less.le⟩
  | case3 first notLess same => exact ⟨[first], rfl, .single same⟩
  | case4 first notLess other => exact ⟨[], rfl, .empty (by omega)⟩

theorem consecutive_range (first last : Int64) : Consecutive first last
    ((List.range (last.toInt - first.toInt + 1).toNat).map
      fun i : Nat => Int64.ofInt (first.toInt + i)) := by
  have low := (Decimal.fits_toInt first).1
  have high := (Decimal.fits_toInt last).2
  have value : ∀ i ∈ List.range (last.toInt - first.toInt + 1).toNat,
      (Int64.ofInt (first.toInt + i)).toInt = first.toInt + i := by
    intro i hi
    rw [List.mem_range] at hi
    exact Decimal.toInt_ofInt ⟨by omega, by omega⟩
  refine ⟨List.pairwise_map.mpr ?_, ?_⟩
  · refine List.pairwise_lt_range.imp_of_mem ?_
    intro i j hi hj less
    rw [value i hi, value j hj]
    omega
  · intro n
    rw [List.map_map, List.map_congr_left (f := Int64.toInt ∘ _) value, List.mem_map]
    constructor
    · rintro ⟨i, hi, rfl⟩
      rw [List.mem_range] at hi
      omega
    · intro between
      refine ⟨(n - first.toInt).toNat, ?_, by omega⟩
      rw [List.mem_range]
      omega

theorem Consecutive.rangeItems_eq {first last : Int64} {items : List Int64}
    (h : Consecutive first last items) :
    rangeItems first.toInt last.toInt = items.map .int := by
  rw [← (consecutive_range first last).unique h, List.map_map]
  rfl

theorem Consecutive.length_eq {first last : Int64} {items : List Int64}
    (h : Consecutive first last items) :
    items.length = (last.toInt - first.toInt + 1).toNat := by
  rw [← (consecutive_range first last).unique h, List.length_map, List.length_range]

/-- Saturating the difference of the ends does not change how it compares with the bound. -/
theorem lt_saturatedDifference_iff (a b : Int64) :
    maxRangeSpan < (saturatedDifference a b).toInt ↔ maxRangeSpan < a.toInt - b.toInt := by
  have least : Int64.minValue.toInt = -2 ^ 63 := by decide
  have greatest : Int64.maxValue.toInt = 2 ^ 63 - 1 := by decide
  rw [saturatedDifference, Decimal.toInt_ofInt ⟨by omega, by omega⟩, maxRangeSpan]
  omega

/-- Counted in words, a range is the same. -/
theorem rangeInWords_eq (first last : Int64) :
    rangeInWords first last = rangeValue (.int first) (.int last) := by
  rcases exists_countUp first last with ⟨items, counted, consecutive⟩
  rw [rangeInWords, rangeValue, counted, consecutive.rangeItems_eq]
  simp only [lt_saturatedDifference_iff]
  rfl

theorem rangeValue_of_not_int {a b : Value} (h : (∀ x, a ≠ .int x) ∨ ∀ y, b ≠ .int y) :
    rangeValue a b = .fault (.type (.rangeBounds a.kind b.kind)) := by
  rw [rangeValue.eq_def]
  split
  · rename_i x y
    rcases h with h | h
    · exact absurd rfl (h x)
    · exact absurd rfl (h y)
  · rfl

theorem Consecutive.rangeValue_eq {first last : Int64} {items : List Int64}
    (h : Consecutive first last items) : rangeValue (.int first) (.int last) =
      if items.length ≤ maxRangeSpan + 1 then .ok (.list (items.map .int))
      else .fault (.type (.rangeTooLarge first last)) := by
  have size := h.length_eq
  rw [rangeValue, h.rangeItems_eq, maxRangeSpan]
  by_cases within : items.length ≤ (1000000 : Int) + 1
  · rw [if_pos within, if_neg (by omega)]
  · rw [if_neg within, if_pos (by omega)]

/-- A range whose ends are integers is the list of the integers between them, and it is refused if
this list has more than one item more than the bound. Words of 64 bits are enough to find it. Ends
of other kinds are refused. -/
theorem range_exact {strict : Bool} {ctx : Context} {first last : Expr} {a b : Value}
    (ha : first.eval strict ctx = .ok a) (hb : last.eval strict ctx = .ok b) :
    (∀ x y, a = .int x → b = .int y →
      ∃ items, Consecutive x y items ∧
        ((Expr.range first last).eval strict ctx =
          if items.length ≤ maxRangeSpan + 1 then .ok (.list (items.map .int))
          else .fault (.type (.rangeTooLarge x y))) ∧
        (Expr.range first last).eval strict ctx = rangeInWords x y) ∧
    ((∀ x, a ≠ .int x) ∨ (∀ y, b ≠ .int y) →
      (Expr.range first last).eval strict ctx = .fault (.type (.rangeBounds a.kind b.kind))) := by
  have value : (Expr.range first last).eval strict ctx = rangeValue a b := by
    rw [Expr.eval, ha, hb]
    rfl
  rw [value]
  refine ⟨?_, rangeValue_of_not_int⟩
  rintro x y rfl rfl
  exact ⟨_, consecutive_range x y, (consecutive_range x y).rangeValue_eq, (rangeInWords_eq x y).symm⟩

/-- Ranges at the limits of 64 bits: the last three integers, none at all, and far too many. -/
theorem range_exact_of_limits :
    let range (first last : Int64) : Outcome Value :=
      (Expr.range (.literal (.int first)) (.literal (.int last))).eval false (.initial .nil)
    range 9223372036854775805 9223372036854775807 = .ok (.list [.int 9223372036854775805,
        .int 9223372036854775806, .int 9223372036854775807]) ∧
      range Int64.maxValue Int64.minValue = .ok (.list []) ∧
      range Int64.minValue Int64.maxValue =
        .fault (.type (.rangeTooLarge Int64.minValue Int64.maxValue)) := by
  intro range
  have literal : ∀ n : Int64,
      (Expr.literal (.int n)).eval false (.initial .nil) = .ok (.int n) := by
    intro n
    rw [Expr.eval]
  have exact_at (x y : Int64) := (range_exact (literal x) (literal y)).1 x y rfl rfl
  refine ⟨?_, ?_, ?_⟩
  · rcases exact_at 9223372036854775805 9223372036854775807 with ⟨items, between, value, -⟩
    have three : Consecutive 9223372036854775805 9223372036854775807
        [9223372036854775805, 9223372036854775806, 9223372036854775807] :=
      .cons (.cons (.single (by decide)) (by decide) (by decide)) (by decide) (by decide)
    rw [between.unique three] at value
    exact value
  · rcases exact_at Int64.maxValue Int64.minValue with ⟨items, between, value, -⟩
    rw [between.unique (.empty (by decide))] at value
    exact value
  · rcases exact_at Int64.minValue Int64.maxValue with ⟨items, between, value, -⟩
    rw [if_neg (by rw [between.length_eq]; decide)] at value
    exact value

/-- A range of one item more than the bound is not refused. -/
theorem range_exact_beyond_bound :
    ∃ items, Consecutive 0 1000000 items ∧ items.length = 1000001 ∧
      (Expr.range (.literal (.int 0)) (.literal (.int 1000000))).eval false (.initial .nil) =
        .ok (.list (items.map .int)) := by
  refine ⟨_, consecutive_range 0 1000000, ?_, ?_⟩
  · rw [(consecutive_range 0 1000000).length_eq]
    decide
  · rw [Expr.eval, Expr.eval, Expr.eval]
    change rangeValue (.int 0) (.int 1000000) = _
    rw [(consecutive_range 0 1000000).rangeValue_eq, if_pos]
    rw [(consecutive_range 0 1000000).length_eq]
    decide

end TemplateSite
