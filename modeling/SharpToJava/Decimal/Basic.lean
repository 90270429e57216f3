/-!
Decimal numbers as they are written: a sign, a coefficient and a power of ten. Nothing is rounded,
and a large exponent costs nothing.
-/

namespace SharpToJava

/-- The number `coefficient · 10 ^ exponent`, or its negative. Zero keeps its sign. -/
structure Decimal where
  negative : Bool
  coefficient : Nat
  exponent : Int
  deriving DecidableEq, Repr, Inhabited

namespace Decimal

def tenPower (exponent : Nat) : Nat := Nat.pow 10 exponent

/-- The value of a row of digits, the most significant first. -/
def ofDigits (digits : List Char) : Nat :=
  digits.foldl (fun value digit => value * 10 + (digit.toNat - '0'.toNat)) 0

/-- One digit or more. -/
def takeDigits? (text : List Char) : Option (List Char × List Char) :=
  match text.span (·.isDigit) with
  | ([], _) => none
  | (digits, rest) => some (digits, rest)

/-- The digits in front of the point: a zero stands alone. -/
def takeWhole? (text : List Char) : Option (List Char × List Char) :=
  match takeDigits? text with
  | some ('0' :: _ :: _, _) => none
  | result => result

/-- The digits after the point, if there is a point. -/
def takeFraction? : List Char → Option (List Char × List Char)
  | '.' :: rest => takeDigits? rest
  | rest => some ([], rest)

/-- The exponent, if there is one. -/
def takeExponent? : List Char → Option (Int × List Char)
  | mark :: rest =>
    if mark = 'e' ∨ mark = 'E' then
      match rest with
      | '-' :: digits => (takeDigits? digits).map fun (read, rest) => (-(ofDigits read : Int), rest)
      | '+' :: digits => (takeDigits? digits).map fun (read, rest) => ((ofDigits read : Int), rest)
      | digits => (takeDigits? digits).map fun (read, rest) => ((ofDigits read : Int), rest)
    else some (0, mark :: rest)
  | [] => some (0, [])

def unsigned? (negative : Bool) (text : List Char) : Option Decimal := do
  let (whole, rest) ← takeWhole? text
  let (fraction, rest) ← takeFraction? rest
  let (exponent, rest) ← takeExponent? rest
  if rest.isEmpty then
    some ⟨negative, ofDigits (whole ++ fraction), exponent - fraction.length⟩
  else none

/-- A number in the notation of JSON, nothing left over. -/
def read? : List Char → Option Decimal
  | '-' :: rest => unsigned? true rest
  | text => unsigned? false text

end Decimal

end SharpToJava
