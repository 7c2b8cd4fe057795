import Mathlib
import TemplateSite.Data.Comparison
import TemplateSite.Proofs.Decimal.Rounding

/-!
# Integers as doubles

The double nearest to an integer is the integer rounded to 53 bits. So doubles of integers are
compared as the rounded integers are.
-/
namespace TemplateSite.Decimal

open Float.Model (Format UnpackedFloat totalExponent)
open Float.Model.UnpackedFloat

/-- An unpacked double that is an integer: a zero, or a number with 53 bits that is not too far from
the integers. -/
inductive Denotes : UnpackedFloat → Int → Prop where
  | zero (s : Sign) : Denotes (.zero s) 0
  | finite {s : Sign} {m k v : Nat} (pos : 0 < m) (low : 2 ^ 52 ≤ m) (high : m < 2 ^ 53)
    (small : k ≤ 64) (value : m * 2 ^ k = v * 2 ^ 52) :
    Denotes (.finite s m ((k : Int) - 52) pos) (s.apply v)

/-! ## Rounding -/

/-- A mantissa shifted to the right by some bits. The two bits behind it tell how what was shifted
out compares with one half. -/
structure Shifted (n k : Nat) (em : ExtendedMantissa) : Prop where
  mantissa : em.mantissa = n / 2 ^ k
  roundBit : em.roundBit = true ↔ 2 ^ k ≤ 2 * (n % 2 ^ k)
  stickyBit : em.stickyBit = true ↔ n % 2 ^ k ≠ 0 ∧ 2 * (n % 2 ^ k) ≠ 2 ^ k

theorem Shifted.shiftRightOne {n k : Nat} {em : ExtendedMantissa} (h : Shifted n k em) :
    Shifted n (k + 1) em.shiftRightOne := by
  have size := Nat.two_pow_pos k
  have below := Nat.mod_lt n size
  have double : 2 ^ (k + 1) = 2 * 2 ^ k := by rw [pow_succ, Nat.mul_comm]
  have rest : n % 2 ^ (k + 1) = n % 2 ^ k + 2 ^ k * (em.mantissa % 2) := by
    rw [pow_succ, Nat.mod_mul, h.mantissa]
  have carried : (em.roundBit || em.stickyBit) = true ↔ n % 2 ^ k ≠ 0 := by
    rw [Bool.or_eq_true, h.roundBit, h.stickyBit]
    omega
  refine ⟨?_, ?_, ?_⟩
  · change em.mantissa / 2 = _
    rw [h.mantissa, Nat.div_div_eq_div_mul, pow_succ]
  · change (em.mantissa % 2 != 0) = true ↔ _
    rw [bne_iff_ne, rest, double]
    rcases Nat.mod_two_eq_zero_or_one em.mantissa with even | odd
    · rw [even]
      omega
    · rw [odd]
      omega
  · change (em.roundBit || em.stickyBit) = true ↔ _
    rw [carried, rest, double]
    rcases Nat.mod_two_eq_zero_or_one em.mantissa with even | odd
    · rw [even]
      omega
    · rw [odd]
      omega

theorem shifted (n k : Nat) :
    Shifted n k (ExtendedMantissa.ofMantissaAndAccuracy n .exact >>> k) := by
  change Shifted n k (k.repeat ExtendedMantissa.shiftRightOne ⟨n, false, false⟩)
  induction k with
  | zero =>
    refine ⟨(Nat.div_one n).symm, ?_, ?_⟩
    · simp [Nat.repeat, Nat.mod_one]
    · simp [Nat.repeat, Nat.mod_one]
  | succ k ih => exact ih.shiftRightOne

theorem Shifted.roundedMantissa {n k : Nat} {em : ExtendedMantissa} (h : Shifted n k em) :
    em.roundedMantissa = nearestQuotient n (2 ^ k) := by
  rcases h with ⟨mantissa, roundBit, stickyBit⟩
  have size := Nat.two_pow_pos k
  rcases em with ⟨m, r, s⟩
  dsimp only at mantissa roundBit stickyBit
  rw [nearestQuotient, ← mantissa]
  cases r <;> cases s <;>
    simp only [Bool.false_eq_true, false_iff, true_iff] at roundBit stickyBit <;>
    simp only [ExtendedMantissa.roundedMantissa, ExtendedMantissa.accuracy,
      Accuracy.roundToNearestEven] <;>
    split_ifs <;> omega

/-- The exponent at which a number has 53 bits, if that is not too small. -/
theorem targetExponent_totalExponent (m : Nat) (e : Int) :
    Format.binary64.targetExponent (totalExponent m e) = max ((m.log2 : Int) + e - 52) (-1074) := by
  have bits : (Format.binary64.mantissaBits : Int) = 53 := rfl
  have least : Format.binary64.minExponent = -1074 := by decide
  rw [Format.targetExponent, totalExponent, bits, least]
  omega

theorem shiftToTargetExponent_of_lt {m : Nat} {e : Int} (hm : m < 2 ^ 53) (he : -52 ≤ e) :
    shiftToTargetExponent Format.binary64 m e .exact = (⟨m, false, false⟩, e) := by
  have bits : m.log2 ≤ 52 := by
    by_cases h : m = 0
    · simp [h]
    · have := (Nat.log2_lt h).mpr hm
      omega
  have target : (Format.binary64.targetExponent (totalExponent m e) - e).toNat = 0 := by
    rw [targetExponent_totalExponent]
    omega
  rw [shiftToTargetExponent, shiftToExponent, target]
  simp [HShiftRight.hShiftRight, Nat.repeat, ExtendedMantissa.ofMantissaAndAccuracy]

theorem shiftToTargetExponent_bound {e : Int} (he : -52 ≤ e) :
    shiftToTargetExponent Format.binary64 (2 ^ 53) e .exact = (⟨2 ^ 52, false, false⟩, e + 1) := by
  have target : (Format.binary64.targetExponent (totalExponent (2 ^ 53) e) - e).toNat = 1 := by
    rw [targetExponent_totalExponent, Nat.log2_two_pow]
    omega
  rw [shiftToTargetExponent, shiftToExponent, target]
  simp [HShiftRight.hShiftRight, Nat.repeat, ExtendedMantissa.ofMantissaAndAccuracy,
    ExtendedMantissa.shiftRightOne]

/-- A natural number is shifted by the bits that it has beyond 53. -/
theorem shiftToTargetExponent_natural {n : Nat} (h : 52 ≤ n.log2) :
    shiftToTargetExponent Format.binary64 n 0 .exact =
      (ExtendedMantissa.ofMantissaAndAccuracy n .exact >>> excess n, (excess n : Int)) := by
  have target : (Format.binary64.targetExponent (totalExponent n 0) - 0).toNat = excess n := by
    rw [targetExponent_totalExponent, excess]
    omega
  rw [shiftToTargetExponent, shiftToExponent, target, zero_add]

/-- Rounding ends after the first shift, or after one bit more if the mantissa has become too
long. -/
theorem denotes_roundWithAccuracy {s : Sign} {m k v : Nat} {e : Int} {em : ExtendedMantissa}
    (first : shiftToTargetExponent Format.binary64 m e .exact = (em, (k : Int) - 52))
    (low : 2 ^ 52 ≤ em.roundedMantissa) (high : em.roundedMantissa ≤ 2 ^ 53) (small : k < 64)
    (value : em.roundedMantissa * 2 ^ k = v * 2 ^ 52) :
    Denotes (roundWithAccuracy Format.binary64 s m e .exact) (s.apply v) := by
  rw [roundWithAccuracy, first]
  dsimp only
  rcases high.lt_or_eq with less | same
  · rw [shiftToTargetExponent_of_lt less (by omega), dif_neg (by dsimp only; omega)]
    exact .finite _ low less (by omega) value
  · have next : (k : Int) - 52 + 1 = ((k + 1 : Nat) : Int) - 52 := by omega
    rw [same] at value ⊢
    have power : 2 ^ 52 * 2 ^ (k + 1) = v * 2 ^ 52 := by
      rw [← value, pow_succ 2 k]
      omega
    rw [shiftToTargetExponent_bound (by omega), dif_neg (by dsimp only; omega), next]
    exact .finite (m := 2 ^ 52) _ le_rfl (by decide) (by omega) power

/-- A natural number of 53 bits or more is rounded where these bits end. -/
theorem denotes_round_of_long {n : Nat} (h : n ≠ 0) (long : 52 ≤ n.log2) (small : n.log2 < 64) :
    Denotes (Float.Model.UnpackedFloat.round Format.binary64 .positive n 0) (rounded n) := by
  have shift : (0 - Format.binary64.targetExponent (totalExponent n 0)).toNat = 0 := by
    rw [targetExponent_totalExponent]
    omega
  have exponent : (excess n : Int) = ((excess n + 52 : Nat) : Int) - 52 := by omega
  have first := shiftToTargetExponent_natural long
  have mantissa := (shifted n (excess n)).roundedMantissa
  have size : n.log2 - excess n = 52 ∧ n.log2 + 1 - excess n = 53 := by
    rw [excess]
    omega
  have low := le_nearestQuotient_excess h
  have high := nearestQuotient_excess_le n
  rw [exponent] at first
  rw [size.1] at low
  rw [size.2] at high
  rw [Float.Model.UnpackedFloat.round, decreaseExponent]
  simp only [shift]
  refine denotes_roundWithAccuracy first (mantissa ▸ low) (mantissa ▸ high) ?_ ?_
  · rw [excess]
    omega
  · rw [mantissa, rounded, pow_add, Nat.mul_assoc]

/-- A natural number of fewer bits is first made longer, and stays as it is. -/
theorem denotes_round_of_short {n : Nat} (h : n ≠ 0) (short : n.log2 < 52) :
    Denotes (Float.Model.UnpackedFloat.round Format.binary64 .positive n 0) (rounded n) := by
  have shift : (0 - Format.binary64.targetExponent (totalExponent n 0)).toNat = 52 - n.log2 := by
    rw [targetExponent_totalExponent]
    omega
  have exponent : (0 : Int) - ((52 - n.log2 : Nat) : Int) = (n.log2 : Int) - 52 := by omega
  have power : 2 ^ n.log2 * 2 ^ (52 - n.log2) = 2 ^ 52 := by
    rw [← pow_add, Nat.add_sub_cancel' short.le]
  have low := Nat.mul_le_mul_right (2 ^ (52 - n.log2)) (Nat.log2_self_le h)
  have high := Nat.mul_lt_mul_of_pos_right (Nat.lt_log2_self (n := n))
    (Nat.two_pow_pos (52 - n.log2))
  rw [power] at low
  rw [pow_succ, Nat.mul_right_comm, power] at high
  have high : n * 2 ^ (52 - n.log2) < 2 ^ 53 := by omega
  rw [Float.Model.UnpackedFloat.round, decreaseExponent]
  simp only [shift, exponent, Nat.shiftLeft_eq]
  refine denotes_roundWithAccuracy (shiftToTargetExponent_of_lt high (by omega)) low high.le
    (by omega) ?_
  change n * 2 ^ (52 - n.log2) * 2 ^ n.log2 = rounded n * 2 ^ 52
  rw [Nat.mul_assoc, Nat.mul_comm (2 ^ _), power, rounded_of_lt ((Nat.log2_lt h).mp (by omega))]

/-- A natural number of at most 64 bits is rounded to 53 bits. -/
theorem denotes_round {n : Nat} (h : n ≠ 0) (small : n < 2 ^ 64) :
    Denotes (Float.Model.UnpackedFloat.round Format.binary64 .positive n 0) (rounded n) := by
  rcases Nat.lt_or_ge n.log2 52 with short | long
  · exact denotes_round_of_short h short
  · exact denotes_round_of_long h long ((Nat.log2_lt h).mpr small)

/-! ## Packing -/

theorem unpack_pack_zero (s : Sign) : (Float.Model.pack (.zero s)).unpack = .zero s :=
  unpack_packedZero

/-- The mantissa is packed without its first bit. -/
theorem toNat_append_ofNat {m : Nat} (low : 2 ^ 52 ≤ m) (high : m < 2 ^ 53) :
    (1#1 ++ BitVec.ofNat 52 m).toNat = m := by
  rw [BitVec.toNat_append, ← Nat.shiftLeft_add_eq_or_of_lt (BitVec.isLt _), BitVec.toNat_ofNat]
  norm_num [Nat.shiftLeft_eq]
  omega

theorem pack_finite (s : Sign) {m k : Nat} (pos : 0 < m) (low : 2 ^ 52 ≤ m) (high : m < 2 ^ 53)
    (small : k ≤ 64) : Float.Model.UnpackedFloat.pack Format.binary64
      (.finite s m ((k : Int) - 52) pos) =
        packComponents Format.binary64 s (BitVec.ofNat 11 (k + 1023)) (BitVec.ofNat 52 m) := by
  have bits : m.log2 + 1 = Format.binary64.mantissaBits := by
    have := (Nat.le_log2 pos.ne').mpr low
    have := (Nat.log2_lt pos.ne').mpr high
    change m.log2 + 1 = 53
    omega
  have biased : ((k : Int) - 52 + Format.binary64.exponentBias + (52 : Nat)).toNat = k + 1023 := by
    simp only [Format.exponentBias]
    norm_num
    omega
  rw [Float.Model.UnpackedFloat.pack]
  dsimp only
  rw [biased, if_neg (by norm_num; omega), if_pos bits]

theorem unpack_pack_finite (s : Sign) {m k : Nat} (pos : 0 < m) (low : 2 ^ 52 ≤ m)
    (high : m < 2 ^ 53) (small : k ≤ 64) :
    (Float.Model.pack (.finite s m ((k : Int) - 52) pos)).unpack =
      .finite s m ((k : Int) - 52) pos := by
  have exponent : (BitVec.ofNat 11 (k + 1023)).toNat = k + 1023 := by
    rw [BitVec.toNat_ofNat, Nat.mod_eq_of_lt (by omega)]
  have unbiased : ((k + 1023 : Nat) : Int) - (Format.binary64.exponentBias + (52 : Nat)) =
      (k : Int) - 52 := by
    have bias : Format.binary64.exponentBias = 1023 := by decide
    rw [bias]
    omega
  change Float.Model.UnpackedFloat.unpack Format.binary64
    (Float.Model.UnpackedFloat.pack Format.binary64 _) = _
  rw [pack_finite s pos low high small, Float.Model.UnpackedFloat.unpack]
  simp only [unpackMantissa_packComponents, unpackExponent_packComponents,
    unpackSign_packComponents, Sign.ofBitVec_toBitVec, exponent, toNat_append_ofNat low high]
  rw [if_neg, if_neg]
  · simp only [unbiased]
  · intro zero
    rw [← BitVec.toNat_inj, exponent] at zero
    simp at zero
  · intro ones
    rw [← BitVec.toNat_inj, exponent] at ones
    simp at ones
    omega

theorem Denotes.unpack_pack {f : UnpackedFloat} {v : Int} (h : Denotes f v) :
    (Float.Model.pack f).unpack = f := by
  cases h with
  | zero s => exact unpack_pack_zero s
  | finite pos low high small _ => exact unpack_pack_finite _ pos low high small

theorem Denotes.neg {f : UnpackedFloat} {v : Int} (h : Denotes f v) : Denotes f.neg (-v) := by
  cases h with
  | zero s => exact .zero (-s)
  | @finite s m k v pos low high small value =>
    have negated : (-s).apply v = -s.apply v := by
      cases s
      · exact (Int.neg_neg _).symm
      · rfl
    rw [← negated]
    exact .finite pos low high small value

/-! ## Comparing -/

/-- Of two numbers of 53 bits the one with the smaller exponent is the smaller one, and with equal
exponents the one with the smaller mantissa. -/
theorem lt_of_exponent_mantissa {m k v m' k' v' : Nat} (high : m < 2 ^ 53) (low : 2 ^ 52 ≤ m')
    (value : m * 2 ^ k = v * 2 ^ 52) (value' : m' * 2 ^ k' = v' * 2 ^ 52) :
    k < k' ∨ k = k' ∧ m < m' → v < v' := by
  rintro (less | ⟨rfl, less⟩)
  · have step : 2 ^ 53 * 2 ^ k ≤ m' * 2 ^ k' := by
      calc 2 ^ 53 * 2 ^ k = 2 ^ 52 * 2 ^ (k + 1) := by rw [pow_succ 2 k]; omega
        _ ≤ m' * 2 ^ k' := Nat.mul_le_mul low (Nat.pow_le_pow_right (by decide) less)
    have below := Nat.mul_lt_mul_of_pos_right high (Nat.two_pow_pos k)
    omega
  · have below := Nat.mul_lt_mul_of_pos_right less (Nat.two_pow_pos k)
    omega

theorem compare_exponent_mantissa {m k v m' k' v' : Nat} (low : 2 ^ 52 ≤ m) (high : m < 2 ^ 53)
    (low' : 2 ^ 52 ≤ m') (high' : m' < 2 ^ 53) (value : m * 2 ^ k = v * 2 ^ 52)
    (value' : m' * 2 ^ k' = v' * 2 ^ 52) :
    (compare ((k : Int) - 52) ((k' : Int) - 52)).then (compare m m') = compare (v : Int) v' := by
  have ascending := lt_of_exponent_mantissa high low' value value'
  have descending := lt_of_exponent_mantissa high' low value' value
  rcases lt_trichotomy k k' with less | rfl | more
  · have exponents : compare ((k : Int) - 52) ((k' : Int) - 52) = .lt :=
      compare_lt_iff_lt.mpr (by omega)
    rw [exponents, compare_lt_iff_lt.mpr (Int.ofNat_lt.mpr (ascending (.inl less)))]
    rfl
  · rw [compare_eq_iff_eq.mpr rfl]
    change compare m m' = _
    rcases lt_trichotomy m m' with less | rfl | more
    · rw [compare_lt_iff_lt.mpr less,
        compare_lt_iff_lt.mpr (Int.ofNat_lt.mpr (ascending (.inr ⟨rfl, less⟩)))]
    · rw [compare_eq_iff_eq.mpr rfl, compare_eq_iff_eq.mpr (by omega)]
    · rw [compare_gt_iff_gt.mpr more,
        compare_gt_iff_gt.mpr (Int.ofNat_lt.mpr (descending (.inr ⟨rfl, more⟩)))]
  · have exponents : compare ((k : Int) - 52) ((k' : Int) - 52) = .gt :=
      compare_gt_iff_gt.mpr (by omega)
    rw [exponents, compare_gt_iff_gt.mpr (Int.ofNat_lt.mpr (descending (.inl more)))]
    rfl

theorem compare_neg_neg (v w : Int) : compare (-v) (-w) = (compare v w).swap := by
  rcases lt_trichotomy v w with less | rfl | more
  · rw [compare_lt_iff_lt.mpr less, compare_gt_iff_gt.mpr (by omega)]
    rfl
  · rw [compare_eq_iff_eq.mpr rfl, compare_eq_iff_eq.mpr rfl]
    rfl
  · rw [compare_gt_iff_gt.mpr more, compare_lt_iff_lt.mpr (by omega)]
    rfl

theorem Denotes.compare_eq {f g : UnpackedFloat} {v w : Int} (h : Denotes f v) (h' : Denotes g w) :
    f.compare g = some (compare v w) := by
  have nonzero : ∀ {m k v : Nat}, 2 ^ 52 ≤ m → m * 2 ^ k = v * 2 ^ 52 → 0 < v := by
    intro m k v low value
    have := Nat.mul_pos (by omega : 0 < m) (Nat.two_pow_pos k)
    omega
  cases h with
  | zero s =>
    cases h' with
    | zero s' => rfl
    | @finite s' m' k' v' _ low' _ _ value' =>
      have := nonzero low' value'
      cases s'
      · exact congrArg some (compare_gt_iff_gt.mpr (by rw [Sign.apply]; omega)).symm
      · exact congrArg some (compare_lt_iff_lt.mpr (by rw [Sign.apply]; omega)).symm
  | @finite s m k v _ low high _ value =>
    have positive := nonzero low value
    cases h' with
    | zero s' =>
      cases s
      · exact congrArg some (compare_lt_iff_lt.mpr (by rw [Sign.apply]; omega)).symm
      · exact congrArg some (compare_gt_iff_gt.mpr (by rw [Sign.apply]; omega)).symm
    | @finite s' m' k' v' _ low' high' _ value' =>
      have positive' := nonzero low' value'
      have magnitudes := compare_exponent_mantissa low high low' high' value value'
      cases s <;> cases s'
      · exact congrArg some ((congrArg Ordering.swap magnitudes).trans (compare_neg_neg v v').symm)
      · exact congrArg some (compare_lt_iff_lt.mpr (by rw [Sign.apply, Sign.apply]; omega)).symm
      · exact congrArg some (compare_gt_iff_gt.mpr (by rw [Sign.apply, Sign.apply]; omega)).symm
      · exact congrArg some magnitudes

/-! ## The double nearest to an integer -/

theorem denotes_toFloat (n : UInt64) : Denotes n.toFloat.toModel.unpack (rounded n.toNat) := by
  have unpacked : Denotes (Float.Model.UnpackedFloat.ofUInt64 Format.binary64 n)
      (rounded n.toNat) := by
    change Denotes (Float.Model.UnpackedFloat.normalize Format.binary64 (n.toNat : Int) 0 .positive) _
    by_cases zero : n.toNat = 0
    · rw [zero, rounded_of_lt (by decide)]
      exact .zero .positive
    · have positive : compare (n.toNat : Int) 0 = .gt := compare_gt_iff_gt.mpr (by omega)
      rw [Float.Model.UnpackedFloat.normalize, positive]
      exact denotes_round zero n.toNat_lt
  change Denotes (Float.Model.pack _).unpack _
  rw [unpacked.unpack_pack]
  exact unpacked

theorem Denotes.toModel_neg {f : Float} {v : Int} (h : Denotes f.toModel.unpack v) :
    Denotes (-f).toModel.unpack (-v) := by
  change Denotes (Float.Model.pack f.toModel.unpack.neg).unpack _
  rw [h.neg.unpack_pack]
  exact h.neg

/-- The double nearest to an integer is the integer rounded to 53 bits. -/
theorem denotes_nearestInteger (n : Int64) :
    Denotes (nearestInteger n).toModel.unpack (roundedInteger n.toInt) := by
  have low := n.le_toInt
  have high := n.toInt_lt
  have magnitude : n.toInt.natAbs.toUInt64.toNat = n.toInt.natAbs :=
    UInt64.toNat_ofNat_of_lt (by change _ < 2 ^ 64; omega)
  have natural := denotes_toFloat n.toInt.natAbs.toUInt64
  rw [magnitude, ← roundedInteger_natCast] at natural
  have sign : n < 0 ↔ n.toInt < 0 := Int64.lt_iff_toInt_lt
  rw [nearestInteger]
  by_cases negative : n < 0
  · have value : n.toInt = -(n.toInt.natAbs : Int) := by
      have := sign.mp negative
      omega
    have negated := natural.toModel_neg
    rw [← roundedInteger_neg, ← value] at negated
    rw [if_pos negative]
    exact negated
  · have value : n.toInt = n.toInt.natAbs := by
      have := mt sign.mpr negative
      omega
    rw [← value] at natural
    rw [if_neg negative]
    exact natural

theorem compare_nearestInteger (x y : Int64) :
    (nearestInteger x).toModel.unpack.compare (nearestInteger y).toModel.unpack =
      some (compare (roundedInteger x.toInt) (roundedInteger y.toInt)) :=
  (denotes_nearestInteger x).compare_eq (denotes_nearestInteger y)

theorem nearestInteger_lt_iff (x y : Int64) :
    nearestInteger x < nearestInteger y ↔ roundedInteger x.toInt < roundedInteger y.toInt := by
  change decide ((nearestInteger x).toModel < (nearestInteger y).toModel) = true ↔ _
  rw [decide_eq_true_iff]
  change ((nearestInteger x).toModel.unpack.compare (nearestInteger y).toModel.unpack ==
    some Ordering.lt) = true ↔ _
  rw [compare_nearestInteger, beq_iff_eq, Option.some_inj, compare_lt_iff_lt]

theorem nearestInteger_beq_iff (x y : Int64) :
    (nearestInteger x == nearestInteger y) = true ↔
      roundedInteger x.toInt = roundedInteger y.toInt := by
  change ((nearestInteger x).toModel.unpack.compare (nearestInteger y).toModel.unpack ==
    some Ordering.eq) = true ↔ _
  rw [compare_nearestInteger, beq_iff_eq, Option.some_inj, compare_eq_iff_eq]

theorem compareFloats?_nearestInteger (x y : Int64) :
    Value.compareFloats? (nearestInteger x) (nearestInteger y) =
      some (compare (roundedInteger x.toInt) (roundedInteger y.toInt)) := by
  rw [Value.compareFloats?]
  simp only [nearestInteger_lt_iff, nearestInteger_beq_iff]
  rcases lt_trichotomy (roundedInteger x.toInt) (roundedInteger y.toInt) with less | same | more
  · rw [if_pos less, compare_lt_iff_lt.mpr less]
  · rw [same, if_neg (lt_irrefl _), if_neg (lt_irrefl _), if_pos rfl, compare_eq_iff_eq.mpr rfl]
  · rw [if_neg more.not_gt, if_pos more, compare_gt_iff_gt.mpr more]

end TemplateSite.Decimal
