import Electorate.Filter.Constraint
import Electorate.Store.Session

/-!
# Households

* `residence`: the address of a voter as it is stored.
* `household`: the other voters at a voter's address.
-/

namespace Electorate.Roster

open Electorate.Sql (Predicate SortKey Statement TextColumn)
open Electorate.Store

/-- The residence address of a voter as it is stored; none if all its parts are empty. -/
def residence (row : VoterRow) : Option ResidentAddress :=
  let address := ResidentAddress.ofParts fun p => (row.cell (.text (.residence p))).orEmpty
  if address.isEmpty then none else some address

/-- The statement that reads the voter of a registration number. -/
def voterStatement (number : String) : Statement :=
  .voters (.equals (.plain .registrationNumber) number) [] none

/-- The statement that reads the voters at an address other than the given one, by name. -/
def membersStatement (atAddress : Predicate) (number : String) : Statement :=
  .voters (.both atAddress (.differs .registrationNumber number))
    [⟨.text .lastName, none⟩, ⟨.text .firstName, none⟩] none

/-- The other voters at the address of a voter; nothing if there is no such voter. A voter without
an address has no others. A registration number is unique in the voter file, so that the first
statement is never answered with several voters; the first one would be taken. -/
def household (number : String) : Inquiry Failure (Option (List VoterRow)) := do
  let found ← askGuarded ofDriver (voterStatement number)
  match found.voters with
  | [] => return none
  | voter :: _ =>
    match (residence voter).bind (·.predicate?) with
    | none => return some []
    | some atAddress =>
      let others ← askGuarded ofDriver (membersStatement atAddress number)
      return some others.voters

end Electorate.Roster
