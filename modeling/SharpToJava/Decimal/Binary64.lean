import SharpToJava.Decimal.Basic

/-!
Decimals in double precision: the nearest number of 53 binary digits, by exact arithmetic on
naturals. A tie goes to the even significand.
-/

namespace SharpToJava

/-- A double that is a number: `significand · 2 ^ exponent`, or its negative. -/
structure Binary64 where
  negative : Bool
  significand : Nat
  exponent : Int
  deriving DecidableEq, Repr, Inhabited

namespace Binary64

def twoPower (exponent : Nat) : Nat := Nat.pow 2 exponent

/-- The exponent of the smallest doubles. -/
def leastExponent : Int := -1074

/-- A power of two on whichever side of a fraction keeps both sides natural. -/
def scale (numerator denominator : Nat) (power : Int) : Nat × Nat :=
  if 0 ≤ power then (numerator * twoPower power.toNat, denominator)
  else (numerator, denominator * twoPower (-power).toNat)

/-- The nearest natural to a fraction, the even one of two. -/
def roundToEven (numerator denominator : Nat) : Nat :=
  let quotient := numerator / denominator
  let twice := 2 * (numerator % denominator)
  if twice < denominator then quotient
  else if denominator < twice then quotient + 1
  else if quotient % 2 = 0 then quotient
  else quotient + 1

/-- The exponent that leaves 53 digits in front of the point, or the least one. -/
def exponentOf (numerator denominator : Nat) : Int :=
  let guess : Int := (numerator.log2 : Int) - denominator.log2 - 52
  let scaled := scale numerator denominator (-guess)
  let exact := if scaled.1 < twoPower 52 * scaled.2 then guess - 1 else guess
  max exact leastExponent

/-- The double nearest to a positive fraction; none if it is beyond the largest. -/
def ofFraction? (negative : Bool) (numerator denominator : Nat) : Option Binary64 :=
  let exponent := exponentOf numerator denominator
  let scaled := scale numerator denominator (-exponent)
  let significand := roundToEven scaled.1 scaled.2
  let (significand, exponent) :=
    if significand = twoPower 53 then (twoPower 52, exponent + 1) else (significand, exponent)
  if 971 < exponent then none else some ⟨negative, significand, exponent⟩

end Binary64

/-- The double nearest to a decimal; none if the decimal is beyond the largest double. Decimals
far outside the range of doubles are decided by their number of digits. -/
def Decimal.toBinary64? (decimal : Decimal) : Option Binary64 :=
  let digits : Int := (Nat.toDigits 10 decimal.coefficient).length
  let zero : Binary64 := ⟨decimal.negative, 0, Binary64.leastExponent⟩
  if decimal.coefficient = 0 ∨ digits + decimal.exponent < -330 then some zero
  else if 310 < digits + decimal.exponent then none
  else if 0 ≤ decimal.exponent then
    Binary64.ofFraction? decimal.negative (decimal.coefficient * tenPower decimal.exponent.toNat) 1
  else
    Binary64.ofFraction? decimal.negative decimal.coefficient (tenPower (-decimal.exponent).toNat)

end SharpToJava
