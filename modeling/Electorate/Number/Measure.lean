import Electorate.Number.Numeral

/-!
# Measures

* `Measure`: a coordinate, a length or a number of voters: a whole number or a double.
-/

namespace Electorate

/-- A whole number or a double. -/
inductive Measure where
  | whole (n : Int)
  | real (x : Float)

namespace Measure

/-- The value as a double. -/
def toFloat : Measure → Float
  | whole n => Number.nearestFloat (n < 0) n.natAbs 1
  | real x => x

/-- The written form in messages. -/
def text : Measure → String
  | whole n => toString n
  | real x => Number.floatText x

/-- Whether the value lies between two whole numbers, both included. -/
def isBetween (low high : Int) : Measure → Bool
  | whole n => low ≤ n && n ≤ high
  | real x => (whole low).toFloat ≤ x && x ≤ (whole high).toFloat

/-- Whether the value is a positive finite number. -/
def isPositive : Measure → Bool
  | whole n => 0 < n
  | real x => 0.0 < x && x.isFinite

end Measure

end Electorate
