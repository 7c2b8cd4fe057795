import TemplateSite.Decimal.Nearest
import TemplateSite.Text.Letter

/-!
# Numbers read from text

An integer is an optional sign and digits, within 64 bits. A double is an optional sign and either
the name of a special value in any case, or digits with an optional point among them and an
optional exponent; it is rounded to the nearest.
-/
namespace TemplateSite.Decimal
open TemplateSite.Text

/-- Splits off a sign; the flag says whether it is a minus. -/
def splitSign : List Char → Bool × List Char
  | '-' :: rest => (true, rest)
  | '+' :: rest => (false, rest)
  | s => (false, s)

/-- The integer with this value, if it has 64 bits. -/
def int64? (n : Int) : Option Int64 :=
  if Int64.minValue.toInt ≤ n && n ≤ Int64.maxValue.toInt then some (Int64.ofInt n) else none

def readInteger? (s : List Char) : Option Int64 :=
  let (negative, digits) := splitSign s
  if digits.isEmpty || !digits.all isDigit then none
  else
    let n : Int := natOfDigits digits
    int64? (if negative then -n else n)

/-- Reads the exponent at the end of a written double; an absent one is zero. -/
def readExponent? : List Char → Option Int
  | [] => some 0
  | e :: rest =>
    if e = 'e' || e = 'E' then
      let (negative, digits) := splitSign rest
      if digits.isEmpty || !digits.all isDigit then none
      else
        let n : Int := natOfDigits digits
        some (if negative then -n else n)
    else none

def readMagnitude? (s : List Char) : Option Float :=
  let lower := s.map Char.toLower
  if lower = "inf".toList || lower = "infinity".toList then some infinity
  else if lower = "nan".toList then some (0.0 / 0.0)
  else
    let before := s.takeWhile isDigit
    let rest := s.dropWhile isDigit
    let (after, rest) :=
      match rest with
      | '.' :: tail => (tail.takeWhile isDigit, tail.dropWhile isDigit)
      | _ => ([], rest)
    if before.isEmpty && after.isEmpty then none
    else
      (readExponent? rest).map fun e => nearest (natOfDigits (before ++ after)) (e - after.length)

def readFloat? (s : List Char) : Option Float :=
  let (negative, magnitude) := splitSign s
  (readMagnitude? magnitude).map fun x => if negative then -x else x

end TemplateSite.Decimal
