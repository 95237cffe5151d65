import Electorate.Filter.Constraint
import Electorate.Store.Session

/-!
# Counts per combination

Each combination of a chart is counted by a statement of its own. A failure of one counts as
zero and leaves the others alone.

* `combinationSpec`: the filter of a combination: its values in place of those of the base.
* `countFrom`: the count that the outcome of a statement gives.
* `countOne`, `combinationCounts`: the counts in the order of the combinations, with their sum.
-/

namespace Electorate.Chart

open Electorate.Store

/-- The filter of a combination over a base: its values replace those of the same dimensions. -/
def combinationSpec (base : FilterSpec) (c : Combination) : FilterSpec := base.merge c.override

/-- The condition of a combination, ages taken in the given year. -/
def combinationPredicate (year : Int) (base : FilterSpec) (c : Combination) : Sql.Predicate :=
  (combinationSpec base c).predicate year

/-- The statement that counts the voters of a combination. -/
def countStatement (year : Int) (base : FilterSpec) (c : Combination) : Sql.Statement :=
  .count (combinationPredicate year base c)

/-- The count that the outcome of a statement gives; zero if it gives none. -/
def countFrom (o : Outcome) : Int :=
  (o.toOption.bind fun answer => answer.scalar.orZero.toOption).getD 0

/-- The count of a combination and its description. -/
structure CombinationCount where
  name : String
  filters : List (String × String)
  count : Int

/-- The counts of a chart. -/
structure CombinationCounts where
  results : List CombinationCount
  total : Option Int

/-- The number of voters of a combination; zero if it cannot be had. -/
def countOne (year : Int) (base : FilterSpec) (c : Combination) : Inquiry Failure Int :=
  return countFrom (← attempt (countStatement year base c))

/-- Counts put beside their combinations, and their sum if it is asked for. -/
def CombinationCounts.of (combinations : List Combination) (counts : List Int) (withTotal : Bool) :
    CombinationCounts :=
  ⟨List.zipWith (fun c n => ⟨c.label, c.filters, n⟩) combinations counts,
    if withTotal then some (counts.foldr (· + ·) 0) else none⟩

/-- The number of voters of every combination. -/
def combinationCounts (year : Int) (combinations : List Combination) (base : FilterSpec)
    (withTotal : Bool) : Inquiry Failure CombinationCounts := do
  let counts ← combinations.mapM (countOne year base)
  return .of combinations counts withTotal

end Electorate.Chart
