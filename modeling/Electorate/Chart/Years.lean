import Electorate.Distinct
import Electorate.Filter.Error

/-!
# The years of a chart

* `uniqueYears`: years without repetition, in the order of their first occurrence.
* `defaultChartYears`: the years of a series for which none are chosen.
-/

namespace Electorate.Chart

/-- The years without repetition. Without a year there is nothing to show. -/
def uniqueYears (years : List Int) : Except FilterError (List Int) :=
  if years.isEmpty then .error .noYears else .ok (distinct years)

/-- Every second year from 2004 to 2024. -/
def defaultChartYears : List Int := (List.range 11).map fun (n : Nat) => 2004 + 2 * (n : Int)

end Electorate.Chart
