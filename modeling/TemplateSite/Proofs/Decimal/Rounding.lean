import Mathlib.Algebra.Order.Ring.Int

/-!
# Integers rounded to 53 bits

An integer of more than 53 bits is rounded to a multiple of a power of two so that 53 bits are left,
to the nearest one and in the middle to the even one. Rounding keeps the order of integers, and it
keeps every integer that has 53 bits.
-/
namespace TemplateSite.Decimal

/-- A quotient rounded to the nearest integer, in the middle between two to the even one. -/
def nearestQuotient (n d : Nat) : Nat :=
  if 2 * (n % d) < d then n / d
  else if 2 * (n % d) = d then n / d + n / d % 2
  else n / d + 1

/-- The number of bits that a number has beyond 53. -/
def excess (n : Nat) : Nat :=
  n.log2 - 52

/-- A natural number rounded to 53 bits. -/
def rounded (n : Nat) : Nat :=
  nearestQuotient n (2 ^ excess n) * 2 ^ excess n

/-- An integer rounded to 53 bits. -/
def roundedInteger (n : Int) : Int :=
  n.sign * rounded n.natAbs

variable {m n d : Nat}

theorem nearestQuotient_one (n : Nat) : nearestQuotient n 1 = n := by
  rw [nearestQuotient, Nat.mod_one, Nat.div_one, if_pos (by decide)]

theorem div_le_nearestQuotient (n d : Nat) : n / d ≤ nearestQuotient n d := by
  rw [nearestQuotient]
  split_ifs <;> omega

theorem nearestQuotient_le (n d : Nat) : nearestQuotient n d ≤ n / d + 1 := by
  rw [nearestQuotient]
  split_ifs <;> omega

theorem nearestQuotient_mono (h : m ≤ n) : nearestQuotient m d ≤ nearestQuotient n d := by
  rcases (Nat.div_le_div_right h : m / d ≤ n / d).lt_or_eq with less | same
  · exact (nearestQuotient_le m d).trans (less.trans_le (div_le_nearestQuotient n d))
  · have rest : m % d ≤ n % d := by
      have hm := Nat.div_add_mod m d
      have hn := Nat.div_add_mod n d
      rw [same] at hm
      omega
    rw [nearestQuotient, nearestQuotient, same]
    split_ifs <;> omega

theorem log2_le_log2 (h : m ≤ n) : m.log2 ≤ n.log2 := by
  by_cases hm : m = 0
  · simp [hm]
  · exact (Nat.le_log2 (by omega)).mpr ((Nat.log2_self_le hm).trans h)

theorem excess_le (n : Nat) : excess n ≤ n.log2 :=
  Nat.sub_le _ _

/-- Rounding does not leave the stretch between two powers of two. -/
theorem le_nearestQuotient_excess (h : n ≠ 0) :
    2 ^ (n.log2 - excess n) ≤ nearestQuotient n (2 ^ excess n) := by
  have quotient : 2 ^ (n.log2 - excess n) ≤ n / 2 ^ excess n := by
    rw [Nat.le_div_iff_mul_le (Nat.two_pow_pos _), ← pow_add, Nat.sub_add_cancel (excess_le n)]
    exact Nat.log2_self_le h
  exact quotient.trans (div_le_nearestQuotient n _)

theorem nearestQuotient_excess_le (n : Nat) :
    nearestQuotient n (2 ^ excess n) ≤ 2 ^ (n.log2 + 1 - excess n) := by
  have quotient : n / 2 ^ excess n < 2 ^ (n.log2 + 1 - excess n) := by
    rw [Nat.div_lt_iff_lt_mul (Nat.two_pow_pos _), ← pow_add,
      Nat.sub_add_cancel ((excess_le n).trans (Nat.le_succ _))]
    exact Nat.lt_log2_self
  exact (nearestQuotient_le n _).trans quotient

theorem le_rounded (h : n ≠ 0) : 2 ^ n.log2 ≤ rounded n := by
  have bound := Nat.mul_le_mul_right (2 ^ excess n) (le_nearestQuotient_excess h)
  rw [← pow_add, Nat.sub_add_cancel (excess_le n)] at bound
  exact bound

theorem rounded_le (n : Nat) : rounded n ≤ 2 ^ (n.log2 + 1) := by
  have bound := Nat.mul_le_mul_right (2 ^ excess n) (nearestQuotient_excess_le n)
  rw [← pow_add, Nat.sub_add_cancel ((excess_le n).trans (Nat.le_succ _))] at bound
  exact bound

theorem rounded_mono (h : m ≤ n) : rounded m ≤ rounded n := by
  rcases (log2_le_log2 h).lt_or_eq with less | same
  · calc rounded m ≤ 2 ^ (m.log2 + 1) := rounded_le m
      _ ≤ 2 ^ n.log2 := Nat.pow_le_pow_right (by decide) less
      _ ≤ rounded n := le_rounded (by rintro rfl; simp at less)
  · rw [rounded, rounded, excess, excess, same]
    exact Nat.mul_le_mul_right _ (nearestQuotient_mono h)

theorem rounded_of_lt (h : n < 2 ^ 53) : rounded n = n := by
  have whole : excess n = 0 := by
    rw [excess]
    by_cases hn : n = 0
    · simp [hn]
    · have := (Nat.log2_lt hn).mpr h
      omega
  rw [rounded, whole, pow_zero, nearestQuotient_one, Nat.mul_one]

/-! ## Integers -/

theorem roundedInteger_natCast (n : Nat) : roundedInteger n = rounded n := by
  rw [roundedInteger, Int.natAbs_natCast]
  by_cases h : n = 0
  · subst h
    rw [rounded_of_lt (by decide)]
    rfl
  · rw [Int.sign_natCast_of_ne_zero h, one_mul]

theorem roundedInteger_neg (n : Int) : roundedInteger (-n) = -roundedInteger n := by
  rw [roundedInteger, roundedInteger, Int.sign_neg, Int.natAbs_neg, neg_mul]

theorem roundedInteger_nonneg {n : Int} (h : 0 ≤ n) : 0 ≤ roundedInteger n := by
  rw [← Int.toNat_of_nonneg h, roundedInteger_natCast]
  exact Int.natCast_nonneg _

theorem roundedInteger_mono {m n : Int} (h : m ≤ n) : roundedInteger m ≤ roundedInteger n := by
  have natural : ∀ {m n : Int}, 0 ≤ m → m ≤ n → roundedInteger m ≤ roundedInteger n := by
    intro m n hm h
    rw [← Int.toNat_of_nonneg hm, ← Int.toNat_of_nonneg (hm.trans h), roundedInteger_natCast,
      roundedInteger_natCast]
    exact Int.ofNat_le.mpr (rounded_mono (Int.toNat_le_toNat h))
  rcases le_total 0 m with hm | hm
  · exact natural hm h
  · have low := roundedInteger_nonneg (n := -m) (by omega)
    rw [roundedInteger_neg] at low
    rcases le_total 0 n with hn | hn
    · have high := roundedInteger_nonneg hn
      omega
    · have negated := natural (m := -n) (n := -m) (by omega) (by omega)
      rw [roundedInteger_neg, roundedInteger_neg] at negated
      omega

theorem roundedInteger_of_lt {n : Int} (h : n.natAbs < 2 ^ 53) : roundedInteger n = n := by
  rw [roundedInteger, rounded_of_lt h, Int.sign_mul_natAbs]

theorem roundedInteger_bound : roundedInteger (2 ^ 53) = 2 ^ 53 := by
  decide

/-- Different integers that are rounded to the same one have more than 53 bits. -/
theorem le_natAbs_of_roundedInteger_eq {m n : Int} (ne : m ≠ n)
    (same : roundedInteger m = roundedInteger n) : 2 ^ 53 ≤ m.natAbs := by
  by_contra less
  have kept := roundedInteger_of_lt (n := m) (by omega)
  rw [kept] at same
  by_cases hn : n.natAbs < 2 ^ 53
  · exact ne (same.trans (roundedInteger_of_lt hn))
  · rcases le_total 0 n with sign | sign
    · have far := roundedInteger_mono (m := 2 ^ 53) (n := n) (by omega)
      rw [roundedInteger_bound] at far
      omega
    · have far := roundedInteger_mono (m := n) (n := -2 ^ 53) (by omega)
      rw [roundedInteger_neg, roundedInteger_bound] at far
      omega

end TemplateSite.Decimal
