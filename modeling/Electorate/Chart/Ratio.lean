import Electorate.Number.Measure
import Electorate.Store.Cell

/-!
# Shares

* `share`: a number divided by a total; nothing if the total is missing or zero. A missing number
  counts as zero. Whole numbers are divided exactly and rounded once.
-/

namespace Electorate.Chart

open Electorate.Store (CellError floatOfInteger)

/-- Whether a measure is zero. -/
def isZero : Measure → Bool
  | .whole n => n == 0
  | .real x => x == 0.0

/-- A measure as a double. -/
def floatOf : Measure → Except CellError Float
  | .whole n => floatOfInteger n
  | .real x => .ok x

/-- The quotient of two measures as a double. -/
def quotient : Measure → Measure → Except CellError Float
  | .whole m, .whole n =>
    let x := Number.nearestFloat ((m < 0) != (n < 0)) m.natAbs n.natAbs
    if x.isInf then .error .quotientTooLarge else .ok x
  | a, b => do return (← floatOf a) / (← floatOf b)

/-- A number divided by a total. -/
def share (number total : Option Measure) : Except CellError (Option Float) :=
  match total with
  | none => .ok none
  | some total =>
    if isZero total then .ok none
    else
      let number :=
        match number with
        | some n => if isZero n then .whole 0 else n
        | none => .whole 0
      (quotient number total).map some

end Electorate.Chart
