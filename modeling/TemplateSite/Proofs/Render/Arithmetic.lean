import TemplateSite.Proofs.Decimal.Integer
import TemplateSite.Proofs.Expression.Spacing
import TemplateSite.Render.Filter

/-!
# Arithmetic on integers

An operand of arithmetic stands for an integer if it is that integer or a text that writes it. On
operands that stand for integers the result is the exact one, whichever of the two they are, and
where that one does not have 64 bits there is an overflow.
-/
namespace TemplateSite
open Text

namespace Arithmetic

/-- The texts that write an integer: its decimal form, before which a plus may stand unless the
integer is negative, between blanks. -/
inductive Writes (n : Int64) : List Char → Prop where
  | plain {before after : List Char} (hb : ∀ c ∈ before, isBlank c = true)
    (ha : ∀ c ∈ after, isBlank c = true) :
    Writes n (before ++ (Value.integerText n).toList ++ after)
  | signed {before after : List Char} (nonneg : 0 ≤ n.toInt)
    (hb : ∀ c ∈ before, isBlank c = true) (ha : ∀ c ∈ after, isBlank c = true) :
    Writes n (before ++ '+' :: (Value.integerText n).toList ++ after)

inductive StandsFor (n : Int64) : Value → Prop where
  | int : StandsFor n (.int n)
  | text {s : String} (writes : Writes n s.toList) : StandsFor n (.text s)

theorem isBlank_of_isDigit {c : Char} (h : isDigit c = true) : isBlank c = false := by
  by_contra blank
  rw [isDigit_of_isBlank (by simpa using blank)] at h
  cases h

theorem isBlank_integerText {n : Int64} {c : Char} (h : c ∈ (Value.integerText n).toList) :
    isBlank c = false := by
  by_cases hn : 0 ≤ n.toInt
  · rw [Value.toList_integerText_of_nonneg hn] at h
    exact isBlank_of_isDigit (isDigit_of_mem_toDigits h)
  · rw [Value.toList_integerText_of_neg (by omega)] at h
    rcases List.mem_cons.mp h with rfl | h
    · rfl
    · exact isBlank_of_isDigit (isDigit_of_mem_toDigits h)

theorem Writes.numeral {n : Int64} {s : List Char} (h : Writes n s) :
    numeral? (trim s) = some (.int n) := by
  cases h with
  | plain hb ha =>
    rw [trim_append hb _ ha, trim_of_not_blank fun _ => isBlank_integerText, numeral?,
      Decimal.readInteger?_integerText]
  | signed nonneg hb ha =>
    have none : ∀ c ∈ '+' :: (Value.integerText n).toList, isBlank c = false :=
      List.forall_mem_cons.mpr ⟨rfl, fun _ => isBlank_integerText⟩
    rw [trim_append hb _ ha, trim_of_not_blank none, numeral?, Decimal.readInteger?_plus nonneg]

theorem StandsFor.operand {n : Int64} {v : Value} (h : StandsFor n v) (op : Arithmetic) :
    op.operand v = .ok (.int n) := by
  cases h with
  | int => rfl
  | text writes => simp only [Arithmetic.operand, writes.numeral]

theorem ofName?_name (op : Arithmetic) : Filter.ofName? op.name = some (.arithmetic op) := by
  cases op <;> rfl

end Arithmetic

end TemplateSite
