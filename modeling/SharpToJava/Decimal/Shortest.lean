import SharpToJava.Decimal.Binary64

/-!
The shortest decimal that reads back as a double. A decimal reads back if it lies between the
midpoints to the neighbouring doubles, the midpoints included when the significand is even. Of the
decimals with the fewest digits the nearest is taken.
-/

namespace SharpToJava.Binary64

/-- Twice the double, the midpoint below and the midpoint above it, as whole numbers of one unit
`2 ^ exponent`. Below a power of two the gap is half as wide. -/
structure Interval where
  low : Nat
  middle : Nat
  high : Nat
  closed : Bool
  exponent : Int

def interval (double : Binary64) : Interval :=
  let narrow := double.significand = twoPower 52 ∧ leastExponent < double.exponent
  { low := 4 * double.significand - (if narrow then 1 else 2)
    middle := 4 * double.significand
    high := 4 * double.significand + 2
    closed := double.significand % 2 == 0
    exponent := double.exponent - 2 }

/-- A whole number of units as a fraction over the grid `10 ^ power`. -/
def onGrid (units : Nat) (exponent power : Int) : Nat × Nat :=
  let scaled := scale units 1 exponent
  if 0 ≤ power then (scaled.1, scaled.2 * Decimal.tenPower power.toNat)
  else (scaled.1 * Decimal.tenPower (-power).toNat, scaled.2)

/-- Whether the grid point `point` reads back as the double. -/
def readsBack (interval : Interval) (power : Int) (point : Nat) : Bool :=
  let low := onGrid interval.low interval.exponent power
  let high := onGrid interval.high interval.exponent power
  if interval.closed then low.1 ≤ point * low.2 && point * high.2 ≤ high.1
  else low.1 < point * low.2 && point * high.2 < high.1

/-- The grid point nearest to the double of those that read back: one of its two neighbours, an
even one if both are as near. -/
def nearest? (interval : Interval) (power : Int) : Option Nat :=
  let middle := onGrid interval.middle interval.exponent power
  let below := middle.1 / middle.2
  match readsBack interval power below, readsBack interval power (below + 1) with
  | true, true => some (roundToEven middle.1 middle.2)
  | true, false => some below
  | false, true => some (below + 1)
  | false, false => none

/-- Whether a double is at least `10 ^ power`. -/
def reaches (double : Binary64) (power : Int) : Bool :=
  let value := onGrid double.significand double.exponent power
  value.2 ≤ value.1

/-- The power of ten of the leading digit of a positive double. The binary digits give it up to
one, by the ratio of the logarithms of two and ten. -/
def leadingPower (double : Binary64) : Int :=
  let guess : Int := ((double.significand.log2 : Int) + double.exponent) * 30103 / 100000
  if double.reaches (guess + 1) then guess + 1
  else if double.reaches guess then guess
  else guess - 1

/-- The digits of a positive double and the power of ten of the last one. Seventeen digits always
suffice. -/
def shortest (double : Binary64) : Nat × Int :=
  let leading := double.leadingPower
  let attempt (digits : Nat) : Option (Nat × Int) :=
    let power := leading - digits
    (nearest? double.interval power).map fun point => (point, power)
  ((List.range 17).findSome? attempt).getD (0, 0)

end SharpToJava.Binary64
