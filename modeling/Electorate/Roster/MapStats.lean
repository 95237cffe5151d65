import Electorate.Filter.Constraint
import Electorate.Geo.Viewport
import Electorate.Store.Session

/-!
# The voters in a viewport

* `mapStats`: the average participation score, rounded to one place, and the number of the
  selected voters in a box.
-/

namespace Electorate.Roster

open Electorate.Sql (Predicate)
open Electorate.Store

/-- A double rounded to one place; a tie goes to the even last digit. -/
def roundToTenth (x : Float) : Float :=
  match Number.Binary.ofFloat? x with
  | none => x
  | some b =>
    Number.Decimal.toFloat ⟨b.negative, Number.roundHalfEven (10 * b.num) b.den, -1⟩

/-- The average score and the number of voters in a viewport. -/
structure MapStats where
  score : Option Float
  voterCount : Int

/-- The condition that a selected voter's point lies in a box. -/
def viewportPredicate (box : Geo.Box Float) (selected : Predicate) : Predicate :=
  .conj [.isNotNull .geom, .inBox box, selected]

/-- The average of a row, rounded, if there is one. -/
def readScore : Cell → Except CellError (Option Float)
  | .null => .ok none
  | c => c.readFloat.map fun x => some (roundToTenth x)

/-- The average score and the number of voters, from a row of two cells. -/
def readStats : Row → Except CellError MapStats
  | [average, count] => do
    let score ← readScore average
    let n ← count.orZero
    return ⟨score, n⟩
  | [] => .error (.shortRow 0)
  | [_] => .error (.shortRow 1)
  | _ => .error .longRow

/-- The average score and the number of the selected voters in a box. -/
def mapStats (year : Int) (spec : FilterSpec) (box : Geo.Box Float) : Inquiry Failure MapStats := do
  let answer ← askGuarded ofDriver (.averageScore (viewportPredicate box (spec.predicate year)))
  read (readStats answer.firstRow)

end Electorate.Roster
