import Mathlib.Order.Lattice
import TemplateSite.Data.Printing
import TemplateSite.Decimal.Numeral

/-!
# Integers of 64 bits

An integer has 64 bits exactly when it is the value of a word, which is then found again. The
decimal form of a word is a minus or nothing and digits, and it is read as that word.
-/
namespace TemplateSite

namespace Text

theorem natOfDigits_toDigits (n : Nat) : natOfDigits (Nat.toDigits 10 n) = n := by
  have read := Nat.ofDigitChars_toDigits (b := 10) (n := n) (by omega) (by omega)
  rw [Nat.ofDigitChars_eq_foldl] at read
  exact read

theorem isDigit_of_mem_toDigits {n : Nat} {c : Char} (h : c ∈ Nat.toDigits 10 n) :
    isDigit c = true :=
  Nat.isDigit_of_mem_toDigits (by omega) (by omega) h

theorem exists_digits (n : Nat) : ∃ digits, digits ≠ [] ∧ (∀ d ∈ digits, isDigit d = true) ∧
    natOfDigits digits = n :=
  ⟨Nat.toDigits 10 n, Nat.toDigits_ne_nil, fun _ => isDigit_of_mem_toDigits,
    natOfDigits_toDigits n⟩

end Text

open Text

namespace Decimal

/-- An integer that has 64 bits. -/
def Fits (n : Int) : Prop :=
  Int64.minValue.toInt ≤ n ∧ n ≤ Int64.maxValue.toInt

theorem fits_toInt (i : Int64) : Fits i.toInt :=
  ⟨Int64.minValue_le_toInt i, Int64.toInt_le i⟩

theorem int64?_of_fits {n : Int} (h : Fits n) : int64? n = some (Int64.ofInt n) := by
  rw [int64?, if_pos (by rw [Bool.and_eq_true, decide_eq_true_eq, decide_eq_true_eq]; exact h)]

theorem toInt_ofInt {n : Int} (h : Fits n) : (Int64.ofInt n).toInt = n := by
  have least : Int64.minValue.toInt = -2 ^ 63 := by decide
  have greatest : Int64.maxValue.toInt = 2 ^ 63 - 1 := by decide
  rcases h with ⟨low, high⟩
  exact Int64.toInt_ofInt_of_le (by omega) (by omega)

theorem int64?_eq_none_iff {n : Int} : int64? n = none ↔ ¬ Fits n := by
  by_cases h : Fits n
  · simp [int64?_of_fits h, h]
  · have outside : ¬ (decide (Int64.minValue.toInt ≤ n) &&
        decide (n ≤ Int64.maxValue.toInt)) = true := by
      rw [Bool.and_eq_true, decide_eq_true_eq, decide_eq_true_eq]
      exact h
    rw [int64?, if_neg outside]
    exact iff_of_true rfl h

/-- The word of an integer is the one that has it as its value. -/
theorem int64?_eq_some_iff {n : Int} {i : Int64} : int64? n = some i ↔ i.toInt = n := by
  constructor
  · intro h
    have fits : Fits n := by
      by_contra outside
      rw [int64?_eq_none_iff.mpr outside] at h
      cases h
    rw [int64?_of_fits fits] at h
    rw [← Option.some.inj h, toInt_ofInt fits]
  · rintro rfl
    rw [int64?_of_fits (fits_toInt i), Int64.ofInt_toInt]

theorem splitSign_of_digit {d : Char} (h : isDigit d = true) (digits : List Char) :
    splitSign (d :: digits) = (false, d :: digits) := by
  rw [splitSign.eq_def]
  split
  · rename_i hs
    cases hs
    exact absurd h (by decide)
  · rename_i hs
    cases hs
    exact absurd h (by decide)
  · rfl

/-- Digits after a sign, which may be absent, are read as an integer. -/
theorem readInteger?_eq {s digits : List Char} {negative : Bool}
    (sign : splitSign s = (negative, digits)) (nonempty : digits ≠ [])
    (each : ∀ d ∈ digits, isDigit d = true) :
    readInteger? s =
      int64? (if negative then -(natOfDigits digits : Int) else natOfDigits digits) := by
  rw [readInteger?, sign]
  simp [nonempty, List.all_eq_true.mpr each]

end Decimal

namespace Value

theorem toList_integerText_of_nonneg {n : Int64} (h : 0 ≤ n.toInt) :
    (integerText n).toList = Nat.toDigits 10 n.toInt.toNat := by
  rw [integerText, Int.toString_eq_repr, Int.repr_eq_if, if_pos h, Nat.toList_repr]

theorem toList_integerText_of_neg {n : Int64} (h : n.toInt < 0) :
    (integerText n).toList = '-' :: Nat.toDigits 10 (-n.toInt).toNat := by
  rw [integerText, Int.toString_eq_repr, Int.repr_eq_if, if_neg (by omega), String.toList_append,
    Nat.toList_repr]
  rfl

end Value

namespace Decimal

theorem readInteger?_integerText (n : Int64) :
    readInteger? (Value.integerText n).toList = some n := by
  have each : ∀ {m : Nat}, ∀ d ∈ Nat.toDigits 10 m, isDigit d = true :=
    fun _ => isDigit_of_mem_toDigits
  have value := natOfDigits_toDigits
  by_cases h : 0 ≤ n.toInt
  · rw [Value.toList_integerText_of_nonneg h]
    have sign : splitSign (Nat.toDigits 10 n.toInt.toNat) =
        (false, Nat.toDigits 10 n.toInt.toNat) := by
      rcases List.exists_cons_of_ne_nil (Nat.toDigits_ne_nil (b := 10) (n := n.toInt.toNat))
        with ⟨d, digits, hd⟩
      rw [hd]
      exact splitSign_of_digit (each d (hd ▸ List.mem_cons_self ..)) digits
    rw [readInteger?_eq sign Nat.toDigits_ne_nil each, value, int64?_eq_some_iff]
    exact (Int.toNat_of_nonneg h).symm
  · rw [Value.toList_integerText_of_neg (by omega)]
    have sign : splitSign ('-' :: Nat.toDigits 10 (-n.toInt).toNat) = (true, _) := rfl
    rw [readInteger?_eq sign Nat.toDigits_ne_nil each, value, int64?_eq_some_iff, if_pos rfl]
    omega

theorem readInteger?_plus {n : Int64} (h : 0 ≤ n.toInt) :
    readInteger? ('+' :: (Value.integerText n).toList) = some n := by
  have sign : splitSign ('+' :: Nat.toDigits 10 n.toInt.toNat) = (false, _) := rfl
  rw [Value.toList_integerText_of_nonneg h, readInteger?_eq sign Nat.toDigits_ne_nil
    fun _ => isDigit_of_mem_toDigits, natOfDigits_toDigits, int64?_eq_some_iff]
  exact (Int.toNat_of_nonneg h).symm

end Decimal
end TemplateSite
