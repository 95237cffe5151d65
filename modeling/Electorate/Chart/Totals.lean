import Electorate.Cache.Key
import Electorate.Chart.Years
import Electorate.Store.Session

/-!
# Voters per year

* `readYearCounts`: the number of voters of each year, from the rows of an answer.
* `countTotals`: the number of all voters who took part in each year's elections.
* `totals`: the same, taken from the totals that are kept where they are recent enough.
-/

namespace Electorate.Chart

open Electorate.Store

/-- The count of a year. -/
def countOf (counts : YearCounts) (year : Int) : Option Int := counts.lookup year

/-- A year and its count, from a row of two cells. -/
def readYearCount : Row → Except CellError (Int × Int)
  | [year, count] => do
    let y ← year.readInteger
    let n ← count.readInteger
    return (y, n)
  | [] => .error (.shortRow 0)
  | [_] => .error (.shortRow 1)
  | _ => .error .longRow

/-- The counts of all rows; of two rows of one year the last counts. -/
def readYearCounts (rows : List Row) : Except CellError YearCounts := do
  let pairs ← rows.mapM readYearCount
  return pairs.foldl (fun counts (y, n) => Entries.put y n counts) []

/-- The number of all voters who took part in each year's elections, asked from the store. -/
def countTotals (years : List Int) : Inquiry Failure YearCounts := do
  let years ← liftExcept ((uniqueYears years).mapError Failure.refused)
  let answer ← askGuarded ofStore (.countByYear years .always)
  read (readYearCounts answer.rows)

/-- The key under which the totals of some years are kept. The order of the years counts. -/
def totalsKey (years : List Int) : String :=
  cacheKey "total_voters_by_year" [.list (years.map Json.int)] []

/-- The number of all voters who took part in each year's elections. A result is kept, a failure
is not. -/
def totals (years : List Int) : Inquiry Failure YearCounts := do
  let session ← get
  let (kept, cache) := session.totals.get session.now (totalsKey years)
  set { session with totals := cache }
  match kept with
  | some counts => return counts
  | none =>
    let counts ← countTotals years
    modify fun s => { s with totals := s.totals.set s.now (totalsKey years) counts }
    return counts

end Electorate.Chart
