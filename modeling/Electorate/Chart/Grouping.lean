import Electorate.Sql.Statement

/-!
# What voters are grouped by

* `Grouping`: the names by which voters can be counted in groups.
* `Grouping.category`: the text or label that tells the group of a voter.
-/

namespace Electorate.Chart

open Electorate.Sql (Category TextColumn)

/-- What voters are grouped by. -/
inductive Grouping where
  | status | statusReason | county
  | congressionalDistrict | stateSenateDistrict | stateHouseDistrict
  | race | gender | party | residenceCity | residenceZipcode
  | ageRange | scoreRange
deriving DecidableEq, Repr

namespace Grouping

/-- All groupings. -/
def all : List Grouping :=
  [status, statusReason, county, congressionalDistrict, stateSenateDistrict, stateHouseDistrict,
    race, gender, party, residenceCity, residenceZipcode, ageRange, scoreRange]

/-- The name of a grouping. -/
def name : Grouping → String
  | status => "status"
  | statusReason => "statusReason"
  | county => "county"
  | congressionalDistrict => "congressionalDistrict"
  | stateSenateDistrict => "stateSenateDistrict"
  | stateHouseDistrict => "stateHouseDistrict"
  | race => "race"
  | gender => "gender"
  | party => "party"
  | residenceCity => "residenceCity"
  | residenceZipcode => "residenceZipcode"
  | ageRange => "ageRange"
  | scoreRange => "scoreRange"

/-- The grouping of a name. -/
def ofName? (name : String) : Option Grouping := all.find? (·.name == name)

/-- The group of a voter; ages are taken in the given year. -/
def category (year : Int) : Grouping → Category
  | status => .column .status
  | statusReason => .column .statusReason
  | county => .column .countyName
  | congressionalDistrict => .column .congressionalDistrict
  | stateSenateDistrict => .column .stateSenateDistrict
  | stateHouseDistrict => .column .stateHouseDistrict
  | race => .column .race
  | gender => .column .gender
  | party => .column .lastPartyVoted
  | residenceCity => .column (.residence .city)
  | residenceZipcode => .column (.residence .zipcode)
  | ageRange => .label (Sql.ageCase year)
  | scoreRange => .label Sql.scoreCase

end Grouping

end Electorate.Chart
