import Electorate.Distinct
import Electorate.Filter.Extract
import Electorate.Sql.Predicate

/-!
# Filters as conditions on voters

* `Constraint`: the condition that one dimension of a filter puts on a voter, with the sources
  beyond the voter's own columns that it reads.
* `FilterSpec.constraints`: the constraints of a filter in its order. A registration number that
  is asked for is the only constraint.
* `FilterSpec.predicate`: all constraints together.
* `ResidentAddress.predicate?`: the condition that a voter lives at an address.

Values that mean nothing in their dimension constrain nothing.
-/

namespace Electorate

open Electorate.Sql

/-- A source beyond the plain columns of a voter. -/
inductive Source where
  | census | spatial | votingEvents | derivedHistory
deriving DecidableEq, Repr

/-- The name of a source. -/
def Source.name : Source → String
  | census => "census"
  | spatial => "spatial"
  | votingEvents => "voting_events"
  | derivedHistory => "derived_history"

/-- The sources that a dimension reads. -/
def Dimension.sources : Dimension → List Source
  | .income | .education | .unemployment => [.census]
  | .radiusFilter => [.spatial]
  | .electionType | .ballotStyle | .eventParty | .voterEventMethod | .electionDate =>
    [.votingEvents]
  | .electionYear | .neverVoted | .notVotedSinceYear => [.derivedHistory]
  | _ => []

/-- The condition that one dimension of a filter puts on a voter. -/
structure Constraint where
  /-- The dimension. -/
  dimension : Dimension
  /-- The condition. -/
  predicate : Predicate

/-- Marks the wild characters of a pattern, and the mark itself, as plain ones. -/
def escapePattern (s : String) : String :=
  String.ofList <| s.toList.flatMap fun c =>
    if c = Text.backslash ∨ c = '%' ∨ c = '_' then [Text.backslash, c] else [c]

/-- The column starts with a text, without regard to case. -/
def startsWith (c : TextColumn) (stem : String) : Predicate :=
  .like (.upper c) (escapePattern (Text.upper stem) ++ "%")

/-- The column equals one of several texts, without regard to case. -/
def matchFolded (c : TextColumn) (values : List String) : Predicate :=
  .matchText (.upper c) (distinct (values.map Text.upper))

/-- Some voting event has one of the values in a field. -/
def eventHasAny (field : String) (values : List String) : Option Predicate :=
  Predicate.disj? (values.map (.eventHas field))

/-- The ways of voting that events record. -/
def eventMethods : List String := ["absentee", "provisional", "supplemental"]

/-- The district moves that a word means. -/
def movesNamed : String → List DistrictMove
  | "congressional" | "congress" => [.congressional]
  | "senate" => [.senate]
  | "house" => [.house]
  | _ => []

/-- Every district move. -/
def allMoves : List DistrictMove := [.congressional, .senate, .house]

/-- The condition on one part of an address. House number and postal code are compared as they
stand, the street name needs to start with the text, and the others are compared without regard
to case. -/
def addressPartPredicate (part : AddressPart) (value : String) : Predicate :=
  match part with
  | .streetName => startsWith (.residence part) value
  | .streetNumber | .zipcode => .equals (.plain (.residence part)) value
  | _ => .equals (.upper (.residence part)) (Text.upper value)

/-- The condition that a voter lives at an address; `none` for the empty address. -/
def ResidentAddress.predicate? (a : ResidentAddress) : Option Predicate :=
  if a.isEmpty then none
  else some (.conj (a.presentParts.map fun (part, value) => addressPartPredicate part value))

/-- The condition that a voter lives within a circle. -/
def Circle.predicate (c : Circle) : Predicate :=
  .conj [.isNotNull .geom, .inBox c.boundingBox,
    .near c.longitude.toFloat c.latitude.toFloat c.radiusMeters]

/-- The condition that a bracket of a census figure puts on a voter's tract. -/
def tractPredicate (stat : CensusStat) (table : List NumericBracket) (values : List String) :
    Option Predicate :=
  Predicate.disj? ((values.filterMap (findBracket? table)).map fun b => .inTract stat (bracketTests b))

/-- The condition on a birth year that the first of several ages gives. An age range that is
selected takes the place of single ages. -/
def agePredicate? (spec : FilterSpec) (test : Comparison) (year : Int) (value : String) :
    Option Predicate :=
  if spec.has Dimension.ageRange.name then none
  else (Number.readInteger? value).map fun age =>
    .number .birthYear (.compare test (.int (year - age)))

/-- Whether the filter asks for voters who sat an election out. -/
def FilterSpec.asksSatOut (spec : FilterSpec) : Bool :=
  let word := (spec.first? Dimension.electionParticipation.name).getD ""
  Text.lowerAscii (Text.strip word) == "satout"

/-- The condition that a dimension of a filter puts on a voter in a given year. -/
def Dimension.predicate? (d : Dimension) (spec : FilterSpec) (year : Int) (values : List String) :
    Option Predicate :=
  let first := values.headD ""
  match d with
  | .county => some (matchFolded .countyName values)
  | .congressionalDistrict => some (.matchText (.plain .congressionalDistrict) values)
  | .stateSenateDistrict => some (.matchText (.plain .stateSenateDistrict) values)
  | .stateHouseDistrict => some (.matchText (.plain .stateHouseDistrict) values)
  | .countyPrecinct => some (matchFolded .countyPrecinct values)
  | .municipalPrecinct => some (matchFolded .municipalPrecinct values)
  | .status => some (matchFolded .status values)
  | .statusReason => some (matchFolded .statusReason values)
  | .party => some (matchFolded .lastPartyVoted values)
  | .gender => some (matchFolded .gender values)
  | .race => some (matchFolded .race (values.map raceStoreValue))
  | .firstName => some (startsWith .firstName first)
  | .lastName => some (startsWith .lastName first)
  | .ageRange => Predicate.disj? ((values.filterMap findAgeBucket?).map (Predicate.ofAgeBucket · year))
  | .ageMin => agePredicate? spec .atMost year first
  | .ageMax => agePredicate? spec .atLeast year first
  | .scoreRange =>
    Predicate.disj? ((values.filterMap (findBracket? scoreRanges)).map (Predicate.ofBracket .score))
  | .income => tractPredicate .medianIncome incomeBrackets values
  | .education => tractPredicate .bachelorsShare educationBrackets values
  | .unemployment => tractPredicate .unemploymentRate unemploymentBrackets values
  | .neverVoted =>
    if Text.lowerAscii (Text.strip first) = "true" then some (.isNull .lastVoteDate) else none
  | .notVotedSinceYear =>
    match Number.readInteger? first with
    | some since =>
      if 1 ≤ since ∧ since ≤ 9999 then
        some (.or (.isNull .lastVoteDate) (.votedBefore (.newYear since.toNat)))
      else none
    | none => none
  | .electionYear =>
    match values.filterMap Number.readInteger? with
    | [] => none
    | years => some (.votedInYears years)
  | .electionType => eventHasAny "election_type" (values.map Text.upper)
  | .ballotStyle => eventHasAny "ballot_style" values
  | .eventParty => eventHasAny "party" (values.map Text.upper)
  | .voterEventMethod =>
    let methods := distinct (values.map fun v => Text.lowerAscii (Text.strip v))
    Predicate.disj? ((methods.filter (eventMethods.contains ·)).map (.eventHas · "Y"))
  | .electionDate =>
    (eventHasAny "election_date" values).map fun attended =>
      if spec.asksSatOut then .or (.isNull .votingEvents) (.not attended) else attended
  | .residentAddress =>
    Predicate.disj? (values.filterMap fun v => (ResidentAddress.ofParam? v).bind (·.predicate?))
  | .redistrictingAffected =>
    let words := values.map fun v => Text.lowerAscii (Text.strip v)
    let moves := if words.contains "any" then allMoves else distinct (words.flatMap movesNamed)
    Predicate.disj? (moves.map .moved)
  | .radiusFilter => (Circle.ofParam first).toOption.map Circle.predicate
  | .exactId | .electionParticipation => none

namespace FilterSpec

/-- The constraints of a filter in a given year, in the order of the filter. -/
def constraints (spec : FilterSpec) (year : Int) : List Constraint :=
  match spec.exactId? with
  | some id => [⟨.exactId, .equals (.plain .registrationNumber) id⟩]
  | none =>
    spec.entries.filterMap fun (name, values) =>
      (Dimension.ofName? name).bind fun d =>
        (d.predicate? spec year values).map fun p => ⟨d, p⟩

/-- The condition that a filter puts on a voter in a given year. -/
def predicate (spec : FilterSpec) (year : Int) : Predicate :=
  .conj ((spec.constraints year).map Constraint.predicate)

end FilterSpec

/-- The year that ages are counted in: the one that is given, today's if none is or if it is
zero. -/
def effectiveYear (given : Option Int) (today : Int) : Int :=
  match given with
  | some year => if year = 0 then today else year
  | none => today

end Electorate
