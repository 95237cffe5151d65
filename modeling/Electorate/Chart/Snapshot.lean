import Electorate.Chart.Grouping
import Electorate.Filter.Constraint
import Electorate.Form.Checked
import Electorate.Store.Session

/-!
# Snapshots

A snapshot counts the selected voters in groups.

* `Snapshot`: the groups in the order in which the store returns them, and their sum.
* `snapshot`: refuses an unknown grouping before the store is asked.
-/

namespace Electorate.Chart

open Electorate.Form (Checked)
open Electorate.Store

/-- The number of voters in a group; voters without the attribute form a group without a name. -/
structure CategoryCount where
  category : Option String
  count : Int

/-- Voters counted in groups. -/
structure Snapshot where
  groupBy : String
  total : Int
  categories : List CategoryCount

/-- A group from its two cells. -/
def CategoryCount.ofCells (category count : Cell) : Checked CategoryCount :=
  CategoryCount.mk <$> .field ["category"] (Cell.optional Cell.formText category) <*>
    .field ["count"] count.formWhole

/-- A group from a row. -/
def CategoryCount.ofRow : Row → Except Failure CategoryCount
  | category :: count :: _ => (ofCells category count).toExcept.mapError .unfit
  | _ => .error (.unreadable .noCell)

/-- The selected voters counted in groups, ages taken in the given year. -/
def snapshot (year : Int) (spec : FilterSpec) (groupBy : String) : Inquiry Failure Snapshot :=
  match Grouping.ofName? groupBy with
  | none => throw (.refused (.badGrouping groupBy (Grouping.all.map Grouping.name)))
  | some grouping => do
    let answer ← askGuarded ofStore (.countByCategory (grouping.category year) (spec.predicate year))
    let categories ← answer.rows.mapM fun row => liftExcept (CategoryCount.ofRow row)
    return ⟨groupBy, (categories.map CategoryCount.count).foldr (· + ·) 0, categories⟩

end Electorate.Chart
