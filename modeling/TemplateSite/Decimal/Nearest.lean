/-!
# The double nearest to a number

Integers are rounded by their magnitude. Decimals far outside the range of doubles are decided by
their magnitude, so the exponent of a written number may be as large as it likes.
-/
namespace TemplateSite.Decimal

def infinity : Float := 1.0 / 0.0

def nearestInteger (n : Int64) : Float :=
  let magnitude := n.toInt.natAbs.toUInt64.toFloat
  if n < 0 then -magnitude else magnitude

/-- The double nearest to `coefficient * 10 ^ exponent`. -/
def nearest (coefficient : Nat) (exponent : Int) : Float :=
  if coefficient = 0 then 0.0
  else
    let magnitude := exponent + (Nat.toDigits 10 coefficient).length
    if 310 < magnitude then infinity
    else if magnitude < -330 then 0.0
    else if exponent < 0 then Float.ofScientific coefficient true (-exponent).toNat
    else Float.ofScientific coefficient false exponent.toNat

end TemplateSite.Decimal
