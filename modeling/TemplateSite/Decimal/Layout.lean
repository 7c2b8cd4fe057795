import TemplateSite.Decimal.Shortest

/-!
# Written doubles

A double is written with its shortest digits, positionally or with an exponent. A style says within
which powers of ten the positional form is used, and whether a whole number is given by its exact
digits or by its shortest ones; either way it ends in a point and a zero.
-/
namespace TemplateSite.Decimal

/-- How doubles are written. -/
structure Style where
  /-- The powers of ten from which on and below which the positional form is used; always if
  absent. -/
  positional : Option (Int × Int)
  /-- Whether a whole number shows all its digits instead of its shortest ones. -/
  exactWhole : Bool

def digits (n : Nat) : List Char :=
  Nat.toDigits 10 n

/-- A decimal in positional form, with at least one digit on both sides of the point. -/
def Scaled.positional (d : Scaled) : List Char :=
  let ds := digits d.coefficient
  if 0 ≤ d.exponent then ds ++ List.replicate d.exponent.toNat '0' ++ ['.', '0']
  else
    let places := (-d.exponent).toNat
    if places < ds.length then
      ds.take (ds.length - places) ++ '.' :: ds.drop (ds.length - places)
    else '0' :: '.' :: List.replicate (places - ds.length) '0' ++ ds

/-- The power of ten of the leading digit. -/
def Scaled.magnitude (d : Scaled) : Int :=
  d.exponent + (digits d.coefficient).length - 1

/-- A decimal with an exponent, one digit before the point. -/
def Scaled.scientific (d : Scaled) : List Char :=
  let exponent := (toString d.magnitude).toList
  match digits d.coefficient with
  | [] => []
  | [c] => c :: 'e' :: exponent
  | c :: rest => c :: '.' :: rest ++ 'e' :: exponent

/-- The whole number that the bits of a finite double encode, if they encode one. -/
def whole? (bits : UInt64) : Option Nat :=
  let b := Binary.ofBits bits
  if 0 ≤ b.exponent then some (b.significand * Nat.pow 2 b.exponent.toNat)
  else
    let unit := Nat.pow 2 (-b.exponent).toNat
    if b.significand % unit = 0 then some (b.significand / unit) else none

/-- The weight of the bit for the sign of a double. -/
def signBit : Nat := 0x8000000000000000

def Style.magnitude (style : Style) (bits : UInt64) : List Char :=
  if bits.toNat % signBit = 0 then ['0', '.', '0']
  else
    let d := shortest bits
    let withExponent :=
      match style.positional with
      | none => false
      | some (low, high) => d.magnitude < low || high ≤ d.magnitude
    if withExponent then d.scientific
    else
      match style.exactWhole, whole? bits with
      | true, some n => digits n ++ ['.', '0']
      | _, _ => d.positional

def Style.write (style : Style) (x : Float) : String :=
  if x.isNaN then "NaN"
  else
    let bits := x.toBits
    let sign := if signBit ≤ bits.toNat then ['-'] else []
    if x.isInf then String.ofList (sign ++ "inf".toList)
    else String.ofList (sign ++ style.magnitude bits)

end TemplateSite.Decimal
