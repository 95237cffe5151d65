import Electorate.Filter.Constraint
import Electorate.Store.Session

/-!
# Lists of voters

* `SortField`: the names of the orders in which voters are listed.
* `Page`: a page of a list and its order.
* `listVoters`: the number of selected voters, and the voters of a page.
-/

namespace Electorate.Roster

open Electorate.Sql (Direction SortColumn SortKey Statement TextColumn)
open Electorate.Store

/-- The orders in which voters are listed. -/
inductive SortField where
  | name | id | county | status | address | score
deriving DecidableEq, Repr

namespace SortField

/-- All orders. -/
def all : List SortField := [name, id, county, status, address, score]

/-- The name of an order. -/
def label : SortField → String
  | name => "name"
  | id => "id"
  | county => "county"
  | status => "status"
  | address => "address"
  | score => "score"

/-- The columns that an order compares, the first one first. -/
def columns : SortField → List SortColumn
  | name => [.text .lastName, .text .firstName]
  | id => [.text .registrationNumber]
  | county => [.text .countyName]
  | status => [.text .status]
  | address => [.text (.residence .streetName), .text (.residence .streetNumber)]
  | score => [.number .score]

/-- The order of a name. -/
def ofName (s : String) : Except FilterError SortField :=
  match all.find? (·.label == s) with
  | some f => .ok f
  | none => .error (.badSortField s (all.map label))

end SortField

/-- The direction of a name. -/
def directionOfName (s : String) : Except FilterError Direction :=
  if s = "asc" then .ok .ascending
  else if s = "desc" then .ok .descending
  else .error (.badSortDirection s)

/-- A page of a list, pages counted from one. -/
structure Page where
  number : Int
  size : Int
deriving DecidableEq, Repr

namespace Page

/-- The first page of twenty voters. -/
def first : Page := ⟨1, 20⟩

/-- The rows of the page. -/
def window (p : Page) : Sql.Window := ⟨p.size, (p.number - 1) * p.size⟩

end Page

/-- The sort keys of an order. Voters whom it does not tell apart are sorted by registration
number. -/
def sortKeys (field : SortField) (direction : Direction) : List SortKey :=
  field.columns.map (⟨·, some direction⟩) ++ [⟨.text .registrationNumber, none⟩]

/-- The statement that reads a page of the voters who fit a condition. -/
def pageStatement (p : Sql.Predicate) (field : SortField) (direction : Direction) (page : Page) :
    Statement :=
  .voters p (sortKeys field direction) (some page.window)

/-- The voters of a page and the number of all selected voters. -/
structure Listing where
  voters : List VoterRow
  total : Cell

/-- A page of the selected voters, ages taken in the given year. The names of the order are
checked before the store is asked. -/
def listVoters (year : Int) (spec : FilterSpec) (page : Page) (sortField sortDirection : String) :
    Inquiry Failure Listing := do
  let field ← liftExcept ((SortField.ofName sortField).mapError Failure.refused)
  let direction ← liftExcept ((directionOfName sortDirection).mapError Failure.refused)
  let predicate := spec.predicate year
  let total ← askGuarded ofDriver (.count predicate)
  let rows ← askGuarded ofDriver (pageStatement predicate field direction page)
  return ⟨rows.voters, total.scalar⟩

end Electorate.Roster
