import Electorate.Config.Settings
import Electorate.Filter.Extract
import Electorate.Geo.Viewport
import Electorate.Roster.Household
import Electorate.Roster.Listing
import Electorate.Web.Endpoint
import Electorate.Web.Query
import Electorate.Web.Response

/-!
# Answering a request

* `Refusal`: why a request is not answered.
* `answer`: the answer of an endpoint to the parameters of a request. Fields of the endpoint are
  checked first, then the filters; only then is the store asked.
* `Refusal.response?`: the response to a refused request.
-/

namespace Electorate.Web

open Electorate.Form (Checked)
open Electorate.Store (Cell Failure Inquiry read)

/-- Why a request is not answered. -/
inductive Refusal where
  /-- The question to the store has no answer. -/
  | failed (f : Failure)
  /-- Fields of the request do not do. -/
  | badFields (errors : List FieldError)
  /-- The years of a chart cannot be read. -/
  | badYears (raw : String)
  /-- There is no voter of the registration number. -/
  | noVoter

/-- The greatest number of combinations of a chart. -/
def maxCombinations : Int := 200

/-- The names of the charts. -/
inductive ChartKind where
  | counts | overTime | ratios
deriving DecidableEq, Repr

/-- The chart of a name. -/
def ChartKind.ofName (s : String) : Except FieldFault ChartKind :=
  if s = "voterCombinationCounts" then .ok counts
  else if s = "voterCountsOverTime" then .ok overTime
  else if s = "demographicRatioOverTime" then .ok ratios
  else .error .notListed

namespace Query

/-- A field of a query; its last value counts. -/
def field (q : Query) (name : String) (default : Option α)
    (f : String → Except FieldFault α) : Checked α :=
  .field ["query", name] <|
    match q.last? name, default with
    | some s, _ => f s
    | none, some a => .ok a
    | none, none => .error .missing

/-- A field that has at least one value, all of which count. -/
def fieldValues (q : Query) (name : String) : Checked (List String) :=
  .field ["query", name] <|
    match q.values name with
    | [] => .error .missing
    | values => .ok values

/-- The filters of a query beside the fields in `ignored`. -/
def filters (q : Query) (ignored : List String) (raiseCase : Bool) :
    Except FilterError FilterSpec :=
  FilterSpec.ofParams q Dimension.allNames ignored raiseCase

end Query

/-- An inquiry that fails as the store does. -/
def inquire (q : Inquiry Failure α) : Inquiry Refusal α := Store.orFail .failed q

/-- The fields of a request, or the refusal for all that do not do. -/
def checked (c : Checked α) : Inquiry Refusal α := liftExcept (c.toExcept.mapError Refusal.badFields)

/-- A filter or option, or its refusal. -/
def accepted (r : Except FilterError α) : Inquiry Refusal α :=
  liftExcept (r.mapError fun e => Refusal.failed (.refused e))

/-- A part of a response, or the failure that its cells do not fit. -/
def fitting (c : Checked α) : Inquiry Refusal α :=
  liftExcept (c.toExcept.mapError fun errors => Refusal.failed (.unfit errors))

/-- Several parts of a response; the first that does not fit counts. -/
def summaries (rows : List Store.VoterRow) : Inquiry Refusal (List Json) :=
  rows.mapM fun row => do return summaryJson (← fitting (Roster.VoterSummary.ofRow row))

/-- The number of pages that so many voters fill. -/
def pageCount (total size : Int) : Int := Int.fdiv (total + size - 1) size

/-- The number of voters as a number that can be added to. -/
def readTotal : Cell → Inquiry Refusal Int
  | .null => throw (.failed (.unreadable (.integerOfKind "NoneType")))
  | .text _ => throw (.failed (.unreadable (.integerOfKind "str")))
  | .date _ => throw (.failed (.unreadable (.integerOfKind "datetime.date")))
  | c => fitting (.field ["total"] c.formWhole)

/-- The fields of a list of voters. -/
structure ListFields where
  page : Int
  size : Int
  sortField : String
  sortDirection : String

/-- The fields of a list of voters in a query. -/
def ListFields.ofQuery (q : Query) : Checked ListFields :=
  ListFields.mk <$>
    q.field "page" (some 1) (fun s => do Form.atLeast 1 (← Form.readWhole s)) <*>
    q.field "pageSize" (some 20)
      (fun s => do Form.atLeast 1 (← Form.atMost 100 (← Form.readWhole s))) <*>
    q.field "sortField" (some "name") .ok <*>
    q.field "sortDirection" (some "asc") .ok

/-- A page of the selected voters. -/
def answerVoters (year : Int) (q : Query) : Inquiry Refusal Json := do
  let fields ← checked (ListFields.ofQuery q)
  let spec ← accepted (q.filters ["page", "pageSize", "sortField", "sortDirection"] true)
  let listing ← inquire (Roster.listVoters year spec ⟨fields.page, fields.size⟩ fields.sortField
    fields.sortDirection)
  let items ← summaries listing.voters
  let total ← readTotal listing.total
  return .object [("items", .list items),
    ("pagination", .object [("total", .int total), ("page", .int fields.page),
      ("page_size", .int fields.size), ("total_pages", .int (pageCount total fields.size))])]

/-- The selected voters counted in groups. -/
def answerSummary (year : Int) (q : Query) : Inquiry Refusal Json := do
  let groupBy ← checked (q.field "groupBy" none .ok)
  let spec ← accepted (q.filters ["groupBy"] true)
  return snapshotJson (← inquire (Chart.snapshot year spec groupBy))

/-- The years of a chart: those of the request, or the given ones where the request has none. -/
def readYears (raw : Option String) (default : List Int) : Inquiry Refusal (List Int) :=
  match raw with
  | none => return default
  | some raw =>
    if Text.isBlankText raw then return default
    else
      match (commaList raw).mapM Number.readInteger with
      | .ok years => accepted (Chart.uniqueYears years)
      | .error _ => throw (.badYears raw)

/-- A chart of the combinations of the selected filters. -/
def answerChart (settings : Settings) (year : Int) (q : Query) : Inquiry Refusal Json := do
  let kind ← checked (q.field "chartType" (some ChartKind.counts) ChartKind.ofName)
  let spec ← accepted (q.filters ["chartType", "years"] false)
  let combinations ← inquire <| liftExcept <|
    (chartCombinations spec Dimension.combinable (some maxCombinations)).mapError fun
      | .nothingSelected => Failure.nothingSelected
      | .refused e => .refused e
  let base := spec.without Dimension.combinable
  if kind = .counts then
    return countsJson (← inquire (Chart.combinationCounts year combinations base true))
  else
    let default ← inquire (read (settings.chartYearList.mapError .integerText))
    let years ← readYears (q.last? "years") default
    return seriesJson
      (← inquire (Chart.countsOverTime year combinations years base (kind = .ratios)))

/-- The selected voters in a viewport. -/
def answerMapStats (year : Int) (q : Query) : Inquiry Refusal Json := do
  let raw ← checked (q.field "bbox" none .ok)
  let box ← accepted (Geo.viewport raw)
  let spec ← accepted (q.filters ["bbox"] true)
  return statsJson (← inquire (Roster.mapStats year spec box))

/-- The values of some fields. -/
def answerLookup (q : Query) : Inquiry Refusal Json := do
  let names ← checked (q.fieldValues "field")
  let found ← inquire (Roster.lookup names)
  fitting (lookupJson found)

/-- The other voters at the address of a voter. -/
def answerHousehold (number : String) : Inquiry Refusal Json := do
  let id ← accepted (registrationNumber number)
  match ← inquire (Roster.household id) with
  | none => throw .noVoter
  | some members => return .list (← summaries members)

/-- The answer of an endpoint, ages taken in the given year. -/
def answer (settings : Settings) (year : Int) (q : Query) : Endpoint → Inquiry Refusal Json
  | .voters => answerVoters year q
  | .summary => answerSummary year q
  | .chartData => answerChart settings year q
  | .mapStats => answerMapStats year q
  | .lookup => answerLookup q
  | .household number => answerHousehold number

/-- The answer of an endpoint, unless it holds a number that cannot be sent. -/
def sendable (j : Json) : Inquiry Refusal Json :=
  if j.isSendable then return j else throw (.failed (.unreadable .notSendable))

/-- A response with a reason. -/
def detail (status : Nat) (reason : String) : Response :=
  .json status (.object [("detail", .text reason)])

/-- The reason given for an answer of the store that does not fit. -/
def unfitMessage (errors : List FieldError) : String :=
  s!"{errors.length} validation errors"

/-- A fault of a field of a request. -/
def fieldErrorJson (e : FieldError) : Json :=
  .object [("loc", .list (e.place.map .text)), ("type", .text e.fault.name)]

/-- The response to a failed question to the store; none to a fault of the program. -/
def failureResponse? : Failure → Option Response
  | .unavailable => some (detail 503 Store.unavailableMessage)
  | .fault f => if f.kind = .value then some (detail 400 f.message) else none
  | .unreadable e => if e.ofValue then some (detail 400 e.message) else none
  | .unfit errors => some (detail 400 (unfitMessage errors))
  | .refused e =>
    some <| .json 400 <| .object <| ("detail", .text e.message) ::
      if e.allowed.isEmpty then [] else [("allowedFilters", .list (e.allowed.map .text))]
  | .nothingSelected =>
    some <| .json 400 <| .object
      [("detail", .text nothingSelectedMessage), ("code", .text "no_filters_selected")]

/-- The response to a refused request; none to a fault of the program. -/
def Refusal.response? : Refusal → Option Response
  | failed f => failureResponse? f
  | badFields errors => some (.json 422 (.list (errors.map fieldErrorJson)))
  | badYears raw => some (detail 400 s!"Invalid years: {raw}")
  | noVoter => some (detail 404 "Voter not found")

end Electorate.Web
