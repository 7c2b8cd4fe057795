import TemplateSite.Data.Description
import TemplateSite.Text.Letter

/-!
# Numbers in data files

A number without point and exponent is an integer if 64 bits hold it. Every other number is a
double, which is found by scaling the significant digits once or twice, not by exact rounding: the
digits count as long as their number has 64 bits, and each scaling rounds.
-/
namespace TemplateSite.Json
open Text

/-- A written number: sign, digits, digits after the point, and sign and digits of the exponent. -/
structure Numeral where
  negative : Bool
  whole : List Char
  fraction : Option (List Char)
  exponent : Option (Bool × List Char)
deriving DecidableEq, Repr

/-- Appends digits to a significand as long as it stays below `2 ^ 64`; the second number counts the
digits that were taken. -/
def takeDigits (significand : Nat) : List Char → Nat × Nat
  | [] => (significand, 0)
  | c :: rest =>
    let next := 10 * significand + digitValue c
    if next < UInt64.size then
      let (found, count) := takeDigits next rest
      (found, count + 1)
    else (significand, 0)

def powerOfTen (n : Nat) : Float :=
  Float.ofScientific 1 false n

/-- Scales a double by a power of ten. Powers beyond `10 ^ 308` overflow, and those below
`10 ^ (-308)` are applied in steps; three steps bring every significand of 64 bits to zero. -/
def scale (x : Float) (exponent : Int) : Nat → Option Float
  | 0 => some x
  | steps + 1 =>
    if exponent.natAbs ≤ 308 then
      if 0 ≤ exponent then
        let y := x * powerOfTen exponent.natAbs
        if y.isInf then none else some y
      else some (x / powerOfTen exponent.natAbs)
    else if x == 0.0 then some x
    else if 0 ≤ exponent then none
    else scale (x / powerOfTen 308) (exponent + 308) steps

namespace Numeral

def isInteger (n : Numeral) : Bool :=
  n.fraction.isNone && n.exponent.isNone

/-- The significand of 64 bits and the power of ten that goes with it, the exponent apart. Once a
digit does not fit, the digits before the point only raise the power and those after it are
dropped. -/
def significand (n : Numeral) : Nat × Int :=
  let (whole, count) := takeDigits 0 n.whole
  let surplus := n.whole.length - count
  let (all, places) := takeDigits whole (n.fraction.getD [])
  (all, (surplus : Int) - places)

/-- Exponents of this size and more do not fit 32 bits: they make every number but zero too large or
too small. -/
def exponentLimit : Nat := 0x80000000

def signed (n : Numeral) (x : Float) : Float :=
  if n.negative then -x else x

def toFloat? (n : Numeral) : Option Float :=
  let (significand, power) := n.significand
  match n.exponent with
  | none => (scale significand.toUInt64.toFloat power 5).map n.signed
  | some (negative, digits) =>
    let e := natOfDigits digits
    if exponentLimit ≤ e then
      if significand ≠ 0 && !negative then none else some (n.signed 0.0)
    else
      let exponent := power + (if negative then -(e : Int) else e)
      (scale significand.toUInt64.toFloat exponent 5).map n.signed

/-- The non-negative integer that the number writes, if 64 bits hold it. -/
def toNat? (n : Numeral) : Option Nat :=
  let value := natOfDigits n.whole
  if n.isInteger && !n.negative && value < UInt64.size then some value else none

/-- The value of an integer below `2 ^ 64` with a minus sign: a double if it is zero or has no 64
bits with its sign. -/
def negated (value : Nat) : Value :=
  match value, Decimal.int64? (-(value : Int)) with
  | _ + 1, some i => .int i
  | _, _ => .float (-value.toUInt64.toFloat)

def toValue? (n : Numeral) : Option Value :=
  let value := natOfDigits n.whole
  if n.isInteger && value < UInt64.size then
    some (if n.negative then negated value else .ofUnsigned value.toUInt64)
  else n.toFloat?.map .float

end Numeral
end TemplateSite.Json
