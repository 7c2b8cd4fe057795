/-!
# The fewest digits of a double

A finite positive double is a natural number times a power of two, and the reals that round to it
form an interval, whose ends belong to it exactly when the natural number is even. Its shortest
decimal lies on the coarsest decimal grid that meets the interval; of two grid points there the
nearer one is taken, and of two equally near ones the greater. All arithmetic is exact: every
quantity is a natural number over a common denominator.
-/
namespace TemplateSite.Decimal

/-- A non-negative decimal: a coefficient times a power of ten. -/
structure Scaled where
  coefficient : Nat
  exponent : Int
deriving DecidableEq, Repr

/-- A positive double as `significand * 2 ^ exponent`. At a power of two the neighbour below is
half as far away as the one above. -/
structure Binary where
  significand : Nat
  exponent : Int
  closerBelow : Bool
deriving DecidableEq, Repr

/-- The weight of the leading bit of a significand, which only the smallest doubles store. -/
def leadingBit : Nat := 0x10000000000000

def Binary.ofBits (bits : UInt64) : Binary :=
  let field := bits.toNat / leadingBit % 0x800
  let fraction := bits.toNat % leadingBit
  if field = 0 then ⟨fraction, -1074, false⟩
  else ⟨leadingBit + fraction, Int.ofNat field - 1075, decide (fraction = 0 ∧ 1 < field)⟩

/-- The interval of reals that round to a double, over one denominator. -/
structure Interval where
  low : Nat
  value : Nat
  high : Nat
  denominator : Nat
  closed : Bool

/-- The interval around a double, in quarters of its last place. -/
def Binary.interval (b : Binary) : Interval :=
  let up := Nat.pow 2 (b.exponent - 2).toNat
  { low := (4 * b.significand - if b.closerBelow then 1 else 2) * up
    value := 4 * b.significand * up
    high := (4 * b.significand + 2) * up
    denominator := Nat.pow 2 (2 - b.exponent).toNat
    closed := decide (b.significand % 2 = 0) }

def Interval.contains (i : Interval) (scale n : Nat) : Bool :=
  if i.closed then i.low * scale ≤ n * i.denominator && n * i.denominator ≤ i.high * scale
  else i.low * scale < n * i.denominator && n * i.denominator < i.high * scale

/-- The multiple of `grid` in the interval nearest to its value, counted in grid steps, if one of
the two multiples around the value lies there. -/
def Interval.onGrid? (i : Interval) (scale grid : Nat) : Option Nat :=
  let below := i.value * scale / (i.denominator * grid)
  let lowFits := i.contains scale (below * grid)
  let highFits := i.contains scale ((below + 1) * grid)
  let half := (2 * below + 1) * grid * i.denominator
  if lowFits && (!highFits || 2 * (i.value * scale) < half) then some below
  else if highFits then some (below + 1)
  else none

/-- Drops the zeros at the end of a coefficient; as many as `limit` are looked at. -/
def stripZeros : Nat → Scaled → Scaled
  | 0, d => d
  | limit + 1, d =>
    if d.coefficient % 10 = 0 && d.coefficient ≠ 0 then
      stripZeros limit ⟨d.coefficient / 10, d.exponent + 1⟩
    else d

/-- The exponent of the scale in which doubles are measured: every positive double has more than
seventeen digits before the point once it is multiplied by ten to this power. -/
def scaleExponent : Nat := 400

/-- The first decimal found on the grids with `tried`, `tried + 1`, ... digits. -/
def Interval.search (i : Interval) (width : Nat) : (fuel tried : Nat) → Scaled
  | 0, _ => ⟨0, 0⟩
  | fuel + 1, tried =>
    match i.onGrid? (Nat.pow 10 scaleExponent) (Nat.pow 10 (width - tried)) with
    | some n => ⟨n, (width : Int) - tried - scaleExponent⟩
    | none => i.search width fuel (tried + 1)

/-- The shortest decimal that reads back as the double of these bits, without zeros at the end of
its coefficient. Seventeen digits are always enough. -/
def shortest (bits : UInt64) : Scaled :=
  let i := (Binary.ofBits bits).interval
  let width := (Nat.toDigits 10 (i.value * Nat.pow 10 scaleExponent / i.denominator)).length
  stripZeros 17 (i.search width 17 1)

end TemplateSite.Decimal
