import Electorate.Chart.Series
import Electorate.Chart.Snapshot
import Electorate.Json
import Electorate.Roster.Lookup
import Electorate.Roster.MapStats
import Electorate.Roster.Summary
import Electorate.Web.Headers

/-!
# Responses

* `Body`, `Response`: what is sent back.
* `json` functions: the results of the program as JSON values.
* `Json.isSendable`: whether a value has a text, which infinities and what is no number have not.
-/

namespace Electorate

mutual

/-- Whether all numbers of a value are finite. -/
def Json.isSendable : Json → Bool
  | .float x => x.isFinite
  | .list items => Json.areSendable items
  | .object members => Json.membersSendable members
  | _ => true

/-- Whether all numbers of some values are finite. -/
def Json.areSendable : List Json → Bool
  | [] => true
  | v :: rest => v.isSendable && Json.areSendable rest

/-- Whether all numbers of some members are finite. -/
def Json.membersSendable : List (String × Json) → Bool
  | [] => true
  | (_, v) :: rest => v.isSendable && Json.membersSendable rest

end

/-- A value that may be missing. -/
def Json.optional (f : α → Json) : Option α → Json
  | none => .null
  | some a => f a

namespace Web

/-- The body of a response. -/
inductive Body where
  | json (value : Json)
  | text (s : String)

/-- A response. -/
structure Response where
  status : Nat
  body : Body
  /-- The headers beside those that describe the body. -/
  headers : Headers

namespace Response

/-- A response without headers of its own. -/
def plain (status : Nat) (body : Body) : Response := ⟨status, body, []⟩

/-- A response with a JSON value. -/
def json (status : Nat) (value : Json) : Response := plain status (.json value)

/-- A response with more headers. -/
def withHeaders (r : Response) (more : Headers) : Response :=
  { r with headers := r.headers ++ more }

end Response

/-- Texts by name. -/
def textMembers (members : List (String × String)) : Json :=
  .object (members.map fun (name, value) => (name, .text value))

/-- A voter in a list. -/
def summaryJson (v : Roster.VoterSummary) : Json :=
  .object <|
    [("id", .text v.id), ("voter_registration_number", .text v.registrationNumber),
      ("county_name", .text v.countyName), ("status", .text v.status),
      ("last_name", .text v.lastName), ("first_name", .text v.firstName),
      ("middle_name", .optional .text v.middleName),
      ("birth_year", .optional .int v.birthYear), ("gender", .optional .text v.gender),
      ("race", .optional .text v.race)] ++
    AddressPart.all.map (fun p => ("residence_" ++ p.name, .optional .text (v.residence p))) ++
    [("participation_score", .optional .float v.score),
      ("derived_last_vote_date", .optional (fun d => .text d.text) v.lastVoteDate),
      ("residence_address", .text v.residenceAddress)]

/-- Voters counted in groups. -/
def snapshotJson (s : Chart.Snapshot) : Json :=
  .object [("groupBy", .text s.groupBy), ("total", .int s.total),
    ("categories", .list (s.categories.map fun c =>
      .object [("category", .optional .text c.category), ("count", .int c.count)]))]

/-- Counts per combination. -/
def countsJson (c : Chart.CombinationCounts) : Json :=
  .object [
    ("results", .list (c.results.map fun r =>
      .object [("name", .text r.name), ("filters", textMembers r.filters),
        ("count", .int r.count)])),
    ("totalCombinedCount", .optional .int c.total)]

/-- A value of a series. -/
def datumJson : Chart.Datum → Json
  | .count n => .int n
  | .share x => .optional .float x

/-- Series over the years. -/
def seriesJson (c : Chart.SeriesChart) : Json :=
  .object [("years", .list (c.years.map .int)),
    ("series", .list (c.series.map fun s =>
      .object [("name", .text s.name), ("filters", textMembers s.filters),
        ("data", .list (s.data.map datumJson))]))]

/-- The voters in a viewport. -/
def statsJson (s : Roster.MapStats) : Json :=
  .object [("score", .optional .float s.score), ("voterCount", .int s.voterCount)]

/-- The values of some fields, all of them texts. -/
def lookupJson (found : List (Roster.LookupField × List Store.Cell)) :
    Form.Checked Json :=
  let value (field : Roster.LookupField) (index : Nat) (c : Store.Cell) : Form.Checked Json :=
    (Form.Checked.field ["values", field.name, toString index] c.formText).map .text
  let values (field : Roster.LookupField) (cells : List Store.Cell) : Form.Checked (List Json) :=
    (cells.zipIdx.map fun (c, i) => value field i c).foldr
      (fun v rest => List.cons <$> v <*> rest) (pure [])
  let members := found.foldr
    (fun (field, cells) rest =>
      (fun vs l => (field.name, Json.list vs) :: l) <$> values field cells <*> rest)
    (pure [])
  members.map fun l => .object [("values", .object l)]

end Web

end Electorate
