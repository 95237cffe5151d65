import Electorate.Filter.Address

/-!
# Columns of the voter file

* `TextColumn`: the columns that hold text.
* `Column`: all columns of a voter's row.
* `Column.selected`: the columns in the order in which rows are read.
* `CensusStat`: the census figures that filters look at.
-/

namespace Electorate.Sql

/-- The marks of voters whom a new district map moves. -/
inductive DistrictMove where
  | congressional | senate | house
deriving DecidableEq, Repr

/-- A column of the voter file that holds text. -/
inductive TextColumn where
  | registrationNumber | status | statusReason | lastName | firstName | middleName | suffix
  | race | gender | lastPartyVoted
  | residence (part : AddressPart)
  | countyCode | countyName | congressionalDistrict | stateSenateDistrict | stateHouseDistrict
  | countyPrecinct | municipalPrecinct | censusTract
deriving DecidableEq, Repr

/-- A column of the voter file. -/
inductive Column where
  | text (c : TextColumn)
  | birthYear | geom | votingEvents | lastVoteDate | score | electionYears
  | moved (m : DistrictMove)
  | id | createdAt | updatedAt
deriving DecidableEq, Repr

/-- The name of a text column. -/
def TextColumn.name : TextColumn → String
  | registrationNumber => "voter_registration_number"
  | status => "status"
  | statusReason => "status_reason"
  | lastName => "last_name"
  | firstName => "first_name"
  | middleName => "middle_name"
  | suffix => "suffix"
  | race => "race"
  | gender => "gender"
  | lastPartyVoted => "last_party_voted"
  | residence part => "residence_" ++ part.name
  | countyCode => "county_code"
  | countyName => "county_name"
  | congressionalDistrict => "congressional_district"
  | stateSenateDistrict => "state_senate_district"
  | stateHouseDistrict => "state_house_district"
  | countyPrecinct => "county_precinct"
  | municipalPrecinct => "municipal_precinct"
  | censusTract => "census_tract"

/-- The name of a column. -/
def Column.name : Column → String
  | text c => c.name
  | birthYear => "birth_year"
  | geom => "geom"
  | votingEvents => "voting_events"
  | lastVoteDate => "derived_last_vote_date"
  | score => "participation_score"
  | electionYears => "participated_election_years"
  | moved .congressional => "redistricting_cong_affected"
  | moved .senate => "redistricting_senate_affected"
  | moved .house => "redistricting_house_affected"
  | id => "id"
  | createdAt => "created_at"
  | updatedAt => "updated_at"

/-- The columns in the order in which rows are read. -/
def Column.selected : List Column :=
  [TextColumn.registrationNumber, .status, .statusReason, .lastName, .firstName, .middleName,
      .suffix].map Column.text ++
    [birthYear] ++
    [TextColumn.race, .gender, .lastPartyVoted].map Column.text ++
    AddressPart.all.map (fun p => Column.text (.residence p)) ++
    [TextColumn.countyCode, .countyName, .congressionalDistrict, .stateSenateDistrict,
      .stateHouseDistrict, .countyPrecinct, .municipalPrecinct].map Column.text ++
    [geom, text .censusTract, votingEvents, lastVoteDate, score, electionYears,
      moved .congressional, moved .senate, moved .house, id, createdAt, updatedAt]

/-- A figure of a census tract. -/
inductive CensusStat where
  | medianIncome | bachelorsShare | unemploymentRate
deriving DecidableEq, Repr

/-- The name of the column that holds a census figure. -/
def CensusStat.name : CensusStat → String
  | medianIncome => "median_household_income"
  | bachelorsShare => "pct_bachelors_degree_or_higher"
  | unemploymentRate => "unemployment_rate"

end Electorate.Sql
