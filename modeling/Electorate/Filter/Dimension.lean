/-!
# Filter dimensions

* `Dimension`: the aspects of a voter's registration, history and place that a filter can select
  on, in the order of their listing.
* `Dimension.name`: the name by which a request refers to a dimension.
* `Dimension.foldsCase`: dimensions whose values the voter file keeps in upper case.
* `Dimension.combinable`: dimensions whose values are crossed into chart combinations.
-/

namespace Electorate

/-- An aspect of a voter that a filter can select on. -/
inductive Dimension where
  | exactId | county | congressionalDistrict | stateSenateDistrict | stateHouseDistrict
  | countyPrecinct | municipalPrecinct | status | statusReason | party | firstName | lastName
  | ageMin | ageMax | ageRange | gender | race | scoreRange | income | education | unemployment
  | neverVoted | notVotedSinceYear | electionType | electionYear | electionDate
  | electionParticipation | ballotStyle | eventParty | voterEventMethod | residentAddress
  | redistrictingAffected | radiusFilter
deriving DecidableEq, Repr

namespace Dimension

/-- Every dimension, in the order of their listing. -/
def all : List Dimension := [
  exactId, county, congressionalDistrict, stateSenateDistrict, stateHouseDistrict,
  countyPrecinct, municipalPrecinct, status, statusReason, party, firstName, lastName,
  ageMin, ageMax, ageRange, gender, race, scoreRange, income, education, unemployment,
  neverVoted, notVotedSinceYear, electionType, electionYear, electionDate,
  electionParticipation, ballotStyle, eventParty, voterEventMethod, residentAddress,
  redistrictingAffected, radiusFilter]

/-- The name by which requests refer to a dimension. -/
def name : Dimension → String
  | exactId => "exactId"
  | county => "county"
  | congressionalDistrict => "congressionalDistrict"
  | stateSenateDistrict => "stateSenateDistrict"
  | stateHouseDistrict => "stateHouseDistrict"
  | countyPrecinct => "countyPrecinct"
  | municipalPrecinct => "municipalPrecinct"
  | status => "status"
  | statusReason => "statusReason"
  | party => "party"
  | firstName => "firstName"
  | lastName => "lastName"
  | ageMin => "ageMin"
  | ageMax => "ageMax"
  | ageRange => "ageRange"
  | gender => "gender"
  | race => "race"
  | scoreRange => "scoreRange"
  | income => "income"
  | education => "education"
  | unemployment => "unemployment"
  | neverVoted => "neverVoted"
  | notVotedSinceYear => "notVotedSinceYear"
  | electionType => "electionType"
  | electionYear => "electionYear"
  | electionDate => "electionDate"
  | electionParticipation => "electionParticipation"
  | ballotStyle => "ballotStyle"
  | eventParty => "eventParty"
  | voterEventMethod => "voterEventMethod"
  | residentAddress => "residentAddress"
  | redistrictingAffected => "redistrictingAffected"
  | radiusFilter => "radiusFilter"

/-- The dimension of a name. -/
def ofName? (s : String) : Option Dimension := all.find? (·.name = s)

/-- The names of all dimensions. -/
def allNames : List String := all.map name

/-- Whether the voter file keeps the values of the dimension in upper case. -/
def foldsCase : Dimension → Bool
  | county | party | status | statusReason | race | gender | eventParty | electionType => true
  | _ => false

/-- The dimensions that charts cross, by name. -/
def combinable : List String :=
  [county, congressionalDistrict, stateSenateDistrict, stateHouseDistrict, status, statusReason,
    eventParty, ageRange, gender, race, electionType, ballotStyle].map name

theorem mem_all (d : Dimension) : d ∈ all := by cases d <;> decide

end Dimension

end Electorate
