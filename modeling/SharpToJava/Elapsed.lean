import SharpToJava.Decimal.Shortest

/-!
Running times in a debug line, in milliseconds: the shortest digits that read back, with a point
and a fraction always, and with an exponent below a ten-thousandth and from 10 ^ 16 on.
-/

namespace SharpToJava.Elapsed

/-- Digits without trailing zeros, and the power of ten of the last one left. -/
def trimZeros (digits : List Char) (power : Int) : List Char × Int :=
  let zeros := digits.reverse.takeWhile (· == '0')
  (digits.take (digits.length - zeros.length), power + zeros.length)

/-- At least two digits and a sign. -/
def exponentText (exponent : Int) : String :=
  let digits := Nat.toDigits 10 exponent.natAbs
  let padded := if digits.length < 2 then '0' :: digits else digits
  String.ofList ('e' :: (if exponent < 0 then '-' else '+') :: padded)

/-- `digits · 10 ^ power`, for digits that do not end in zero. -/
def layOut (digits : List Char) (power : Int) : String :=
  let point : Int := digits.length + power
  if point ≤ -4 ∨ 16 < point then
    let fraction := if digits.length = 1 then [] else '.' :: digits.tail
    String.ofList (digits.take 1 ++ fraction) ++ exponentText (point - 1)
  else if point ≤ 0 then
    String.ofList ('0' :: '.' :: (List.replicate (-point).toNat '0' ++ digits))
  else if 0 ≤ power then
    String.ofList (digits ++ List.replicate power.toNat '0' ++ ['.', '0'])
  else
    String.ofList (digits.take point.toNat ++ '.' :: digits.drop point.toNat)

/-- The text of a number of milliseconds, rounded to a double first. -/
def text (milliseconds : Decimal) : String :=
  let sign := if milliseconds.negative then "-" else ""
  match milliseconds.toBinary64? with
  | none => sign ++ "inf"
  | some double =>
    if double.significand = 0 then sign ++ "0.0"
    else
      let (digits, power) := double.shortest
      let (digits, power) := trimZeros (Nat.toDigits 10 digits) power
      sign ++ layOut digits power

def line (milliseconds : Decimal) : String := "Time: " ++ text milliseconds ++ " ms"

end SharpToJava.Elapsed
