import Electorate.Distinct
import Electorate.Store.Session

/-!
# The values of a field

* `LookupField`: the fields whose values can be listed.
* `lookup`: the different values of some fields that are not blank.
-/

namespace Electorate.Roster

open Electorate.Sql (TextColumn)
open Electorate.Store

/-- The fields whose values can be listed. -/
inductive LookupField where
  | county | status | statusReason
  | congressionalDistrict | stateSenateDistrict | stateHouseDistrict
  | countyPrecinct | municipalPrecinct
  | party | race | gender | residenceCity | residenceZipcode
deriving DecidableEq, Repr

namespace LookupField

/-- All fields. -/
def all : List LookupField :=
  [county, status, statusReason, congressionalDistrict, stateSenateDistrict, stateHouseDistrict,
    countyPrecinct, municipalPrecinct, party, race, gender, residenceCity, residenceZipcode]

/-- The name of a field. -/
def name : LookupField → String
  | county => "county"
  | status => "status"
  | statusReason => "statusReason"
  | congressionalDistrict => "congressionalDistrict"
  | stateSenateDistrict => "stateSenateDistrict"
  | stateHouseDistrict => "stateHouseDistrict"
  | countyPrecinct => "countyPrecinct"
  | municipalPrecinct => "municipalPrecinct"
  | party => "party"
  | race => "race"
  | gender => "gender"
  | residenceCity => "residenceCity"
  | residenceZipcode => "residenceZipcode"

/-- The column of a field. -/
def column : LookupField → TextColumn
  | county => .countyName
  | status => .status
  | statusReason => .statusReason
  | congressionalDistrict => .congressionalDistrict
  | stateSenateDistrict => .stateSenateDistrict
  | stateHouseDistrict => .stateHouseDistrict
  | countyPrecinct => .countyPrecinct
  | municipalPrecinct => .municipalPrecinct
  | party => .lastPartyVoted
  | race => .race
  | gender => .gender
  | residenceCity => .residence .city
  | residenceZipcode => .residence .zipcode

/-- The field of a name. -/
def ofName (s : String) : Except FilterError LookupField :=
  match all.find? (·.name == s) with
  | some f => .ok f
  | none => .error (.badLookupField s (all.map name))

end LookupField

/-- The first cell of a row. -/
def firstCell : Row → Except CellError Cell
  | c :: _ => .ok c
  | [] => .error .noCell

/-- The values of one field. -/
def lookupOne (field : LookupField) : Inquiry Failure (LookupField × List Cell) := do
  let answer ← askGuarded ofDriver (.distinctValues field.column)
  let values ← read (answer.rows.mapM firstCell)
  return (field, values)

/-- The values of some fields, each once. A name that is no field is refused before the store is
asked. -/
def lookup (names : List String) : Inquiry Failure (List (LookupField × List Cell)) := do
  let fields ← liftExcept ((names.mapM LookupField.ofName).mapError Failure.refused)
  (distinct fields).mapM lookupOne

end Electorate.Roster
