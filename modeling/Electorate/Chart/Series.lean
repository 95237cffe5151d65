import Electorate.Chart.Counts
import Electorate.Chart.Ratio
import Electorate.Chart.Totals

/-!
# Series over the years

* `Series`, `SeriesChart`: for each combination one value per year.
* `countsOverTime`: counts per year, or shares of all voters who took part in the year's
  elections. The totals are asked for first; where they cannot be had, nothing else is asked.
-/

namespace Electorate.Chart

open Electorate.Store

/-- A value of a series. -/
inductive Datum where
  | count (n : Int)
  /-- A share, missing where there is no total. -/
  | share (x : Option Float)

/-- The values of a combination, one per year. -/
structure Series where
  name : String
  filters : List (String × String)
  data : List Datum

/-- The series of a chart. -/
structure SeriesChart where
  years : List Int
  series : List Series

/-- The statement that counts the voters of a combination per year. -/
def yearsStatement (year : Int) (base : FilterSpec) (years : List Int) (c : Combination) :
    Sql.Statement :=
  .countByYear years (combinationPredicate year base c)

/-- The counts per year that the outcome of a statement gives; none if it gives none. -/
def yearCountsFrom (o : Outcome) : YearCounts :=
  (o.toOption.bind fun answer => (readYearCounts answer.rows).toOption).getD []

/-- The counts of a combination per year; none if they cannot be had. -/
def countYears (year : Int) (base : FilterSpec) (years : List Int) (c : Combination) :
    Inquiry Failure YearCounts :=
  return yearCountsFrom (← attempt (yearsStatement year base years c))

/-- The counts of the years, zero for a year without a row. -/
def countData (years : List Int) (counts : YearCounts) : List Datum :=
  years.map fun y => .count ((countOf counts y).getD 0)

/-- The shares of the years. -/
def shareData (years : List Int) (totals counts : YearCounts) :
    Except CellError (List Datum) :=
  years.mapM fun y =>
    (share (some (.whole ((countOf counts y).getD 0))) ((countOf totals y).map .whole)).map .share

/-- One value per year and combination. With `ratio` they are shares of all voters of the year. -/
def countsOverTime (year : Int) (combinations : List Combination) (years : List Int)
    (base : FilterSpec) (ratio : Bool) : Inquiry Failure SeriesChart := do
  let years ← liftExcept ((uniqueYears years).mapError Failure.refused)
  let totals ← if ratio then totals years else pure []
  let counts ← combinations.mapM (countYears year base years)
  let data ←
    if ratio then read (counts.mapM (shareData years totals))
    else pure (counts.map (countData years))
  return ⟨years, List.zipWith (fun c d => ⟨c.label, c.filters, d⟩) combinations data⟩

end Electorate.Chart
