/-!
Sets of characters as ranges of code points, and maps that move such ranges: the form in which the
character tables of this library are written.
-/

namespace SharpToJava.Text

/-- The code points `first`, `first + step`, … up to `last`. -/
structure CodeRange where
  first : Nat
  last : Nat
  step : Nat
  deriving DecidableEq, Repr

namespace CodeRange

def contains (range : CodeRange) (c : Char) : Bool :=
  range.first ≤ c.toNat && c.toNat ≤ range.last && (c.toNat - range.first) % range.step == 0

end CodeRange

/-- A range whose characters all move by the same distance. -/
structure CodeShift where
  range : CodeRange
  distance : Int
  deriving DecidableEq, Repr

namespace CodeShift

/-- Where a table of shifts sends a character; a character outside the table stays. -/
def apply (table : List CodeShift) (c : Char) : Char :=
  match table.find? (·.range.contains c) with
  | some shift => Char.ofNat (c.toNat + shift.distance).toNat
  | none => c

end CodeShift

end SharpToJava.Text
