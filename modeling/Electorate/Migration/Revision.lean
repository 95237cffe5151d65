import Electorate.Migration.Table
import Electorate.Sql.Render

/-!
# Revisions of the tables

* `Revision`: the changes of a revision and those that take it back.
* `firstRevision`: the tables of census tracts and of voters.
* `upgradeScript`, `downgradeScript`: the statements that carry a revision out and enter it in the
  table of versions.
-/

namespace Electorate.Migration

open Electorate.Sql (Column TextColumn voterTable)

/-- The changes of a revision and those that take it back. -/
structure Revision where
  id : String
  upgrade : List Change
  downgrade : List Change

/-- A column that every row has a value in. -/
def required (name : String) (type : ColumnType) : ColumnSpec := ⟨name, type, true, none⟩

/-- A column that a row may have no value in. -/
def optional (name : String) (type : ColumnType) : ColumnSpec := ⟨name, type, false, none⟩

/-- A column that is given the present moment. -/
def stamped (name : String) : ColumnSpec := ⟨name, .moment, true, some "now()"⟩

/-- The table of census tracts. -/
def censusTracts : String := "census_tracts"

/-- The columns and keys of the census tracts: one row per tract and year of the census. -/
def censusTable : TableSpec :=
  ⟨censusTracts,
    [required "id" .uuid, required "tract_id" (.varchar 11),
      required "census_data_year" .integer, optional "total_population" .integer,
      optional "voting_age_population" .integer, optional "median_household_income" .double,
      optional "pct_bachelors_degree_only" .double,
      optional "pct_bachelors_degree_or_higher" .double, optional "labor_force" .integer,
      optional "unemployment_rate" .double, stamped "created_at", stamped "updated_at"],
    [⟨none, true, ["id"]⟩,
      ⟨some "uq_census_tract_year", false, ["tract_id", "census_data_year"]⟩]⟩

/-- The greatest length of a part of an address. -/
def addressLength : AddressPart → Nat
  | .streetNumber => 50
  | .preDirection => 10
  | .streetName => 100
  | .streetType => 20
  | .postDirection => 10
  | .aptUnitNumber => 20
  | .city => 100
  | .zipcode => 10

/-- The greatest length of a text. -/
def textLength : TextColumn → Nat
  | .registrationNumber | .status | .suffix | .lastPartyVoted => 20
  | .statusReason | .lastName | .firstName | .middleName | .countyName => 100
  | .race => 50
  | .gender => 10
  | .residence part => addressLength part
  | .countyCode => 5
  | .congressionalDistrict | .stateSenateDistrict | .stateHouseDistrict => 10
  | .countyPrecinct | .municipalPrecinct => 20
  | .censusTract => 11

/-- Whether every voter has a text in a column. -/
def isRequired : TextColumn → Bool
  | .registrationNumber | .status | .lastName | .firstName | .countyName => true
  | _ => false

/-- A column of the voters. -/
def voterColumn (c : Column) : ColumnSpec :=
  match c with
  | .text t => ⟨c.name, .varchar (textLength t), isRequired t, none⟩
  | .birthYear => optional c.name .integer
  | .geom => optional c.name (.point 4326)
  | .votingEvents => optional c.name .json
  | .lastVoteDate => optional c.name .date
  | .score => optional c.name (.numeric 3 1)
  | .electionYears => optional c.name .integers
  | .moved _ => ⟨c.name, .boolean, true, some "'false'"⟩
  | .id => required c.name .uuid
  | .createdAt | .updatedAt => stamped c.name

/-- The columns and the key of the voters. -/
def votersTable : TableSpec :=
  ⟨voterTable, (Column.id :: Column.selected.filter (· ≠ .id)).map voterColumn,
    [⟨none, true, [Column.id.name]⟩]⟩

/-- An index of the voters. -/
def voterIndex (name : String) (columns : List Column) (unique : Bool) (method : Option String) :
    Change :=
  .addIndex ⟨name, voterTable, columns.map Column.name, unique, method⟩

/-- The index of a text column of the voters. -/
def textIndex (c : TextColumn) (unique : Bool) : Change :=
  voterIndex ("ix_" ++ voterTable ++ "_" ++ c.name) [.text c] unique none

/-- The indexes of the voters. -/
def voterIndexes : List Change :=
  textIndex .registrationNumber true ::
    [TextColumn.status, .countyName, .residence .zipcode, .congressionalDistrict,
      .stateSenateDistrict, .stateHouseDistrict, .censusTract].map (textIndex · false) ++
    [voterIndex "ix_voter_registrations_name_search" [.text .lastName, .text .firstName] false
        none,
      voterIndex "ix_voter_registrations_address"
        [.text (.residence .streetNumber), .text (.residence .streetName),
          .text (.residence .zipcode)] false none,
      voterIndex "idx_voter_registrations_geom" [.geom] false (some "gist"),
      voterIndex "ix_voter_registrations_voting_events" [.votingEvents] false (some "gin"),
      voterIndex "ix_voter_registrations_participated_years" [.electionYears] false (some "gin")]

/-- The revision that makes the tables of census tracts and of voters. -/
def firstRevision : Revision :=
  ⟨"001",
    [.addExtension "postgis", .addTable censusTable,
      .addIndex ⟨"ix_census_tracts_tract_id", censusTracts, ["tract_id"], false, none⟩,
      .addTable votersTable] ++ voterIndexes,
    [.dropTable voterTable, .dropTable censusTracts]⟩

/-- The table of versions, in a schema if there is one. -/
def versionTable (schema : Option String) : String :=
  ((schema.map fun s => Sql.identifier s ++ ".").getD "") ++ "alembic_version"

/-- The columns and the key of the table of versions. -/
def versionSpec (schema : Option String) : TableSpec :=
  ⟨versionTable schema, [required "version_num" (.varchar 32)],
    [⟨some "alembic_version_pkc", true, ["version_num"]⟩]⟩

/-- Statements with a note in front of them. -/
def noted (note : String) : List String → List String
  | [] => []
  | s :: rest => ("-- " ++ note ++ "\n\n" ++ s) :: rest

/-- Statements that take effect together. -/
def transaction (statements : List String) : List String := "BEGIN" :: statements ++ ["COMMIT"]

/-- The statements that carry a revision out on a database without tables. -/
def upgradeScript (schema : Option String) (r : Revision) : List String :=
  let table := versionTable schema
  transaction <| (versionSpec schema).text ::
    noted s!"Running upgrade  -> {r.id}" (r.upgrade.map Change.text) ++
    [s!"INSERT INTO {table} (version_num) VALUES ('{r.id}') RETURNING {table}.version_num"]

/-- The statements that take a revision back. -/
def downgradeScript (schema : Option String) (r : Revision) : List String :=
  let table := versionTable schema
  transaction <| noted s!"Running downgrade {r.id} -> " (r.downgrade.map Change.text) ++
    [s!"DELETE FROM {table} WHERE {table}.version_num = '{r.id}'"]

end Electorate.Migration
