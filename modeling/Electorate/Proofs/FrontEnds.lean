import Electorate.Proofs.ConcurrentCounts
import Electorate.Proofs.FilterWords
import Electorate.Proofs.Odometer
import Electorate.Proofs.Pagination
import Electorate.Proofs.StatementsPut
import Electorate.Proofs.Statuses
import Electorate.Proofs.SuitedAnswers

/-!
# Commands ask what requests ask

The same filters can be given to a command and to a request. Both make the same specification of
them, put the same statements to the store, and are refused with the same message.

* `FilterSpec.ofParams_eq_filter`: the options of a request leave its filters alone.
* `Application.Reaches`: a request that comes to its endpoint, and what it is answered with.
* `Query.ListsVoters`, `Query.CountsCombinations`: queries for a page of voters and for the counts of
  a chart, with given filters. Filters alone are both.
* `ReplyRefused`, `ReplyCharted`, `LineRefused`, `LineCharted`: how a request and a command line end,
  with the statements that were put.
* `commands_ask_as_requests`: the two of them side by side.
-/

namespace Electorate

open Electorate.Sql (Direction Statement)
open Electorate.Store

/-- A member of an object. -/
def Json.member? (name : String) : Json → Option Json
  | .object members => members.lookup name
  | _ => none

/-- The failure that a chart is refused with. -/
def ChartError.failure : ChartError → Failure
  | nothingSelected => .nothingSelected
  | refused e => .refused e

/-- What a command says when a chart is refused. -/
def ChartError.fault : ChartError → CommandLine.FilterFault
  | nothingSelected => .nothingSelected
  | refused e => .refused e

/-- What a chart is refused for, in words. -/
def ChartError.message : ChartError → String
  | nothingSelected => nothingSelectedMessage
  | refused e => e.message

/-! ## Parameters -/

/-- The options of a request are passed over, so that it has the filters that stand among them. -/
theorem FilterSpec.ofParams_eq_filter (params : List (String × String))
    (allowed ignored : List String) (raiseCase : Bool) :
    ofParams params allowed ignored raiseCase =
      ofParams (params.filter fun p => p.1 ∉ ignored) allowed [] raiseCase := by
  unfold ofParams
  generalize empty = spec
  induction params generalizing spec with
  | nil => rfl
  | cons p params ih =>
    by_cases hp : p.1 ∈ ignored
    · have hskip : addParam allowed ignored raiseCase spec p = .ok spec := by
        simp [addParam, hp]
      have hdrop : ((p :: params).filter fun p => p.1 ∉ ignored) =
          params.filter fun p => p.1 ∉ ignored :=
        List.filter_cons_of_neg (by simpa using hp)
      rw [List.foldlM_cons, hskip, hdrop]
      exact ih spec
    · have hsame : addParam allowed ignored raiseCase spec p =
          addParam allowed [] raiseCase spec p := by
        simp [addParam, hp]
      have hkeep : ((p :: params).filter fun p => p.1 ∉ ignored) =
          p :: params.filter fun p => p.1 ∉ ignored :=
        List.filter_cons_of_pos (decide_eq_true hp)
      rw [hkeep, List.foldlM_cons, List.foldlM_cons, hsame]
      cases addParam allowed [] raiseCase spec p with
      | error e => rfl
      | ok next => exact ih next

namespace Web

variable {q : Query} {pairs : List (String × String)} {settings : Settings} {year : Int}
  {session : Session}

/-! ## Requests -/

/-- A request that the limit lets through to an endpoint. -/
structure Application.Reaches (app : Application) (r : Request) (e : Endpoint) : Prop where
  started : app.started = true
  admitted : admits app.settings.rateLimitPerMinute (app.counted r).1 = true
  method : r.method = "GET"
  path : Route.ofPath app.settings.apiPath r.path = .endpoint e

namespace Application.Reaches

variable {app : Application} {r : Request} {e : Endpoint} {after : Session}

theorem respond_eq (h : app.Reaches r e) (year : Int) :
    app.respond year r = (throughLayers (app.respondAt year r.query e).1,
      { app with hits := (app.counted r).2, session := (app.respondAt year r.query e).2 }) := by
  have hroute : app.route year r = app.respondAt year r.query e := by
    rw [route, h.path]
    exact if_pos h.method
  rw [respond_of_admits h.admitted, hroute]

/-- An answer that can be sent is sent. -/
theorem respond_of_ok (h : app.Reaches r e) {j : Json}
    (hrun : (answer app.settings year r.query e).run.run app.session = (.ok j, after))
    (hj : j.isSendable = true) :
    app.respond year r = ((Response.json 200 j).withHeaders securityHeaders,
      { app with hits := (app.counted r).2, session := after }) := by
  have hsent : (do sendable (← answer app.settings year r.query e)).run.run app.session =
      (.ok j, after) := by
    rw [run_bind_of_ok hrun, sendable, if_pos hj]
    rfl
  rw [h.respond_eq, respondAt_of_ok h.started hsent]
  rfl

/-- A request that is not answered is refused for what its endpoint says. -/
theorem respond_of_error (h : app.Reaches r e) {refusal : Refusal}
    (hrun : (answer app.settings year r.query e).run.run app.session = (.error refusal, after)) :
    app.respond year r = (throughLayers refusal.response?,
      { app with hits := (app.counted r).2, session := after }) := by
  rw [h.respond_eq, respondAt_of_error h.started (run_bind_of_error hrun)]

/-- What is sent with the status 200 is the answer, and the session is the one after it. -/
theorem respond_cases (h : app.Reaches r e) (year : Int) :
    (app.respond year r).2.session =
        ((answer app.settings year r.query e).run.run app.session).2 ∧
      ((app.respond year r).1.status = 200 →
        ∃ j, ((answer app.settings year r.query e).run.run app.session).1 = .ok j ∧
          (app.respond year r).1.body = .json j) := by
  have hnot : ∀ refusal : Refusal, (throughLayers refusal.response?).status ≠ 200 := by
    intro refusal
    cases hresponse : refusal.response? with
    | none => decide
    | some response =>
      have hstatus := status_response? hresponse
      simp only [List.mem_cons, List.not_mem_nil, or_false] at hstatus
      rw [throughLayers, status_withHeaders]
      omega
  rcases hrun : (answer app.settings year r.query e).run.run app.session with ⟨refusal | j, after⟩
  · rw [h.respond_of_error hrun]
    exact ⟨rfl, fun hstatus => absurd hstatus (hnot refusal)⟩
  · by_cases hj : j.isSendable = true
    · rw [h.respond_of_ok hrun hj]
      exact ⟨rfl, fun _ => ⟨j, rfl, rfl⟩⟩
    · -- An answer that cannot be sent is a fault, but its statements have been put.
      have hunsent : (do sendable (← answer app.settings year r.query e)).run.run app.session =
          (.error (.failed (.unreadable .notSendable)), after) := by
        rw [run_bind_of_ok hrun, sendable, if_neg hj]
        rfl
      rw [h.respond_eq, respondAt_of_error h.started hunsent]
      exact ⟨rfl, fun hstatus => absurd hstatus (hnot (.failed (.unreadable .notSendable)))⟩

end Application.Reaches

theorem run_inquire {q : Inquiry Failure α} {r : Except Failure α} {after : Session}
    (h : q.run.run session = (r, after)) :
    (inquire q).run.run session = (r.mapError Refusal.failed, after) :=
  congrArg (fun result : Except Failure α × Session =>
    (result.1.mapError Refusal.failed, result.2)) h

/-! ## Lists of voters -/

/-- The options of a list of voters. -/
def listOptions : List String := ["page", "pageSize", "sortField", "sortDirection"]

/-- A query for a page of the voters whom filters select. -/
structure Query.ListsVoters (q : Query) (pairs : List (String × String)) (page : Roster.Page)
    (field : Roster.SortField) (direction : Direction) : Prop where
  filters : q.filter (fun p => p.1 ∉ listOptions) = pairs
  fields : ∃ fields, ListFields.ofQuery q = .value fields ∧ page = ⟨fields.page, fields.size⟩ ∧
    Roster.SortField.ofName fields.sortField = .ok field ∧
    Roster.directionOfName fields.sortDirection = .ok direction

theorem Query.ListsVoters.filters_eq {page : Roster.Page} {field : Roster.SortField}
    {direction : Direction} (hq : q.ListsVoters pairs page field direction) :
    q.filters listOptions true = FilterSpec.ofParams pairs Dimension.allNames [] true := by
  rw [Query.filters, FilterSpec.ofParams_eq_filter, hq.filters]

/-- The total of a list of voters, as it is sent. -/
def totalOf (j : Json) : Option Json := (j.member? "pagination").bind (Json.member? "total")

/-- The answer to a query for a page, once the store has given it. -/
def listAnswer (fields : ListFields) (listing : Roster.Listing) : Inquiry Refusal Json := do
  let items ← summaries listing.voters
  let total ← readTotal listing.total
  return .object [("items", .list items),
    ("pagination", .object [("total", .int total), ("page", .int fields.page),
      ("page_size", .int fields.size), ("total_pages", .int (pageCount total fields.size))])]

/-- The answer puts no more statements, and its total is what the store has counted. -/
theorem puts_listAnswer (fields : ListFields) (listing : Roster.Listing) :
    Puts (fun _ => False) (fun j => ∀ n, listing.total = .int n → totalOf j = some (.int n))
      (listAnswer fields listing) := by
  refine (puts_summaries _).bind fun items _ => (puts_readTotal _).bind fun total htotal => ?_
  refine .pure fun n hn => ?_
  rw [← htotal n hn]
  rfl

theorem run_answerVoters_of_error {fields : ListFields} {e : FilterError}
    (hfields : ListFields.ofQuery q = .value fields)
    (hspec : q.filters listOptions true = .error e) (session : Session) :
    (answerVoters year q).run.run session = (.error (.failed (.refused e)), session) := by
  unfold answerVoters
  rw [hfields]
  refine (run_bind_of_ok (a := fields) rfl).trans ?_
  refine run_bind_of_error ?_
  show (accepted (q.filters listOptions true)).run.run session = _
  rw [hspec]
  rfl

theorem run_answerVoters_of_ok {fields : ListFields} {spec : FilterSpec}
    (hfields : ListFields.ofQuery q = .value fields)
    (hspec : q.filters listOptions true = .ok spec) (session : Session) :
    (answerVoters year q).run.run session = (do
      listAnswer fields (← inquire (Roster.listVoters year spec ⟨fields.page, fields.size⟩
        fields.sortField fields.sortDirection))).run.run session := by
  unfold answerVoters
  rw [hfields]
  refine (run_bind_of_ok (a := fields) rfl).trans ?_
  refine run_bind_of_ok (a := spec) ?_
  show (accepted (q.filters listOptions true)).run.run session = _
  rw [hspec]
  rfl

/-- A page of voters is asked for after their number, and the number is the total of the answer. -/
theorem asked_answerVoters {page : Roster.Page} {field : Roster.SortField} {direction : Direction}
    {spec : FilterSpec} (hq : q.ListsVoters pairs page field direction)
    (hspec : FilterSpec.ofParams pairs Dimension.allNames [] true = .ok spec) (year : Int)
    (session : Session) : ∃ later, ((answerVoters year q).run.run session).2.asked =
        session.asked ++ .count (spec.predicate year) :: later ∧
      (∀ s ∈ later, s = Roster.pageStatement (spec.predicate year) field direction page) ∧
      ∀ j a n, ((answerVoters year q).run.run session).1 = .ok j →
        nextOutcome session = .ok a → a.scalar = .int n → totalOf j = some (.int n) := by
  obtain ⟨fields, hfields, rfl, hfield, hdirection⟩ := hq.fields
  have hfilters : q.filters listOptions true = .ok spec := hq.filters_eq.trans hspec
  rw [run_answerVoters_of_ok hfields hfilters]
  generalize hlisted : inquire (Roster.listVoters year spec ⟨fields.page, fields.size⟩
    fields.sortField fields.sortDirection) = listed
  have hrun : ∀ {r after}, (Roster.listVoters year spec ⟨fields.page, fields.size⟩
      fields.sortField fields.sortDirection).run.run session = (r, after) →
        listed.run.run session = (r.mapError .failed, after) :=
    fun h => hlisted ▸ run_inquire h
  cases hnext : nextOutcome session with
  | error f =>
    have hfails := hrun (Roster.run_listVoters_of_error hfield hdirection hnext)
    rw [run_bind_of_error hfails]
    exact ⟨[], rfl, nofun, nofun⟩
  | ok a =>
    have hlist := hrun (Roster.run_listVoters_of_ok hfield hdirection hnext)
    cases hpage : nextOutcome (session.afterPut (.count (spec.predicate year))) with
    | error f =>
      rw [hpage] at hlist
      rw [run_bind_of_error hlist]
      refine ⟨[Roster.pageStatement (spec.predicate year) field direction
        ⟨fields.page, fields.size⟩], ?_, by simp, nofun⟩
      simp [Session.afterPut]
    | ok b =>
      rw [hpage] at hlist
      rw [run_bind_of_ok hlist]
      obtain ⟨put, hasked, hput, htotal⟩ := puts_listAnswer fields ⟨b.voters, a.scalar⟩
        ((session.afterPut (.count (spec.predicate year))).afterPut
          (Roster.pageStatement (spec.predicate year) field direction ⟨fields.page, fields.size⟩))
      obtain rfl : put = [] := List.eq_nil_iff_forall_not_mem.mpr hput
      refine ⟨[Roster.pageStatement (spec.predicate year) field direction
        ⟨fields.page, fields.size⟩], ?_, by simp, fun j a' n hj ha hn => htotal j hj n ?_⟩
      · rw [hasked]
        simp [Session.afterPut]
      · obtain rfl := Except.ok.inj ha
        exact hn

/-! ## Charts -/

/-- The options of a chart. -/
def chartOptions : List String := ["chartType", "years"]

/-- A query for the counts of the combinations that filters select. -/
structure Query.CountsCombinations (q : Query) (pairs : List (String × String)) : Prop where
  filters : q.filter (fun p => p.1 ∉ chartOptions) = pairs
  kind : q.field "chartType" (some ChartKind.counts) ChartKind.ofName = .value .counts

namespace Query.CountsCombinations

theorem filters_eq (hq : q.CountsCombinations pairs) : q.filters chartOptions false =
    FilterSpec.ofParams pairs Dimension.allNames [] false := by
  rw [Query.filters, FilterSpec.ofParams_eq_filter, hq.filters]

theorem run_of_error (hq : q.CountsCombinations pairs) {e : FilterError}
    (hspec : FilterSpec.ofParams pairs Dimension.allNames [] false = .error e)
    (session : Session) :
    (answerChart settings year q).run.run session = (.error (.failed (.refused e)), session) := by
  have hfilters : q.filters ["chartType", "years"] false = .error e := hq.filters_eq.trans hspec
  unfold answerChart
  rw [hq.kind, hfilters]
  refine (run_bind_of_ok (a := ChartKind.counts) rfl).trans ?_
  exact run_bind_of_error rfl

variable {spec : FilterSpec}

/-- The combinations are put together and counted. -/
theorem run_eq (hq : q.CountsCombinations pairs)
    (hspec : FilterSpec.ofParams pairs Dimension.allNames [] false = .ok spec)
    (session : Session) :
    (answerChart settings year q).run.run session = (do
      let combos ← inquire (liftExcept ((chartCombinations spec Dimension.combinable
        (some maxCombinations)).mapError ChartError.failure))
      return countsJson (← inquire (Chart.combinationCounts year combos
        (spec.without Dimension.combinable) true))).run.run session := by
  have hfilters : q.filters ["chartType", "years"] false = .ok spec := hq.filters_eq.trans hspec
  unfold answerChart
  rw [hq.kind, hfilters]
  refine (run_bind_of_ok (a := ChartKind.counts) rfl).trans ?_
  refine (run_bind_of_ok (a := spec) rfl).trans ?_
  cases chartCombinations spec Dimension.combinable (some maxCombinations) with
  | error e => cases e <;> rfl
  | ok combos => rfl

theorem run_of_refused (hq : q.CountsCombinations pairs) {e : ChartError}
    (hspec : FilterSpec.ofParams pairs Dimension.allNames [] false = .ok spec)
    (hrefused : chartCombinations spec Dimension.combinable (some maxCombinations) = .error e)
    (session : Session) :
    (answerChart settings year q).run.run session = (.error (.failed e.failure), session) := by
  rw [hq.run_eq hspec, hrefused]
  exact run_bind_of_error rfl

theorem run_of_ok (hq : q.CountsCombinations pairs) {combos : List Combination}
    (hspec : FilterSpec.ofParams pairs Dimension.allNames [] false = .ok spec)
    (hcombos : chartCombinations spec Dimension.combinable (some maxCombinations) = .ok combos)
    {c : Chart.CombinationCounts} {session after : Session}
    (hrun : (Chart.combinationCounts year combos (spec.without Dimension.combinable)
      true).run.run session = (.ok c, after)) :
    (answerChart settings year q).run.run session = (.ok (countsJson c), after) := by
  rw [hq.run_eq hspec, hcombos]
  refine (run_bind_of_ok (a := combos) rfl).trans ?_
  exact run_bind_of_ok (run_inquire hrun)

end Query.CountsCombinations

/-! ## Queries of filters alone -/

theorem Query.field_of_forall_ne {name : String} (h : ∀ p ∈ q, p.1 ≠ name) (a : α)
    (f : String → Except FieldFault α) : q.field name (some a) f = .value a := by
  have hnone : q.last? name = none := by
    have hvalues : q.filter (fun p => p.1 == name) = [] :=
      List.filter_eq_nil_iff.mpr fun p hp => by simpa using h p hp
    rw [Query.last?, Query.values, hvalues]
    rfl
  unfold Query.field
  rw [hnone]
  rfl

theorem ne_option_of_mem_allNames {name option : String} (h : name ∈ Dimension.allNames)
    (hoption : option ∈ listOptions ++ chartOptions) : name ≠ option := by
  have hall : ∀ name ∈ Dimension.allNames, ∀ option ∈ listOptions ++ chartOptions,
      name ≠ option := by decide +kernel
  exact hall name h option hoption

/-- Filters alone ask for the first page. -/
theorem Query.listsVoters_self (hkeys : ∀ p ∈ pairs, p.1 ∈ Dimension.allNames) :
    Query.ListsVoters pairs pairs .first .name .ascending where
  filters := by
    refine List.filter_eq_self.mpr fun p hp => decide_eq_true fun hoption => ?_
    exact ne_option_of_mem_allNames (hkeys p hp) (List.mem_append_left _ hoption) rfl
  fields := by
    have hfree : ∀ option ∈ listOptions, ∀ p ∈ pairs, p.1 ≠ option := fun option hoption p hp =>
      ne_option_of_mem_allNames (hkeys p hp) (List.mem_append_left _ hoption)
    refine ⟨⟨1, 20, "name", "asc"⟩, ?_, rfl, rfl, rfl⟩
    rw [ListFields.ofQuery, Query.field_of_forall_ne (hfree "page" (by decide)),
      Query.field_of_forall_ne (hfree "pageSize" (by decide)),
      Query.field_of_forall_ne (hfree "sortField" (by decide)),
      Query.field_of_forall_ne (hfree "sortDirection" (by decide))]
    rfl

/-- Filters alone ask for the counts of their combinations. -/
theorem Query.countsCombinations_self (hkeys : ∀ p ∈ pairs, p.1 ∈ Dimension.allNames) :
    Query.CountsCombinations pairs pairs where
  filters := by
    refine List.filter_eq_self.mpr fun p hp => decide_eq_true fun hoption => ?_
    exact ne_option_of_mem_allNames (hkeys p hp) (List.mem_append_right _ hoption) rfl
  kind := Query.field_of_forall_ne
    (fun p hp => ne_option_of_mem_allNames (hkeys p hp) (by decide)) _ _

/-! ## Replies -/

/-- A request is refused with a message, and the store is asked nothing. -/
structure ReplyRefused (message : String) (app : Application) (reply : Response × Application) :
    Prop where
  status : reply.1.status = 400
  detail : ∃ j, reply.1.body = .json j ∧ j.member? "detail" = some (.text message)
  asked : reply.2.session.asked = app.session.asked

/-- A request is answered with the counts of a chart. -/
structure ReplyCharted (c : Chart.CombinationCounts) (put : List Statement) (app : Application)
    (reply : Response × Application) : Prop where
  status : reply.1.status = 200
  body : reply.1.body = .json (countsJson c)
  asked : reply.2.session.asked = app.session.asked ++ put

theorem Application.Reaches.replyRefused {app : Application} {r : Request} {e : Endpoint}
    (h : app.Reaches r e) (error : ChartError)
    (hrun : (answer app.settings year r.query e).run.run app.session =
      (.error (.failed error.failure), app.session)) :
    ReplyRefused error.message app (app.respond year r) := by
  rw [h.respond_of_error hrun]
  cases error with
  | nothingSelected => exact ⟨rfl, ⟨_, rfl, rfl⟩, rfl⟩
  | refused e => exact ⟨rfl, ⟨_, rfl, rfl⟩, rfl⟩

variable {app : Application} {r : Request} {spec : FilterSpec}

/-- The filters of a list of voters are refused before the store is asked. -/
theorem Application.Reaches.replyRefused_list {page : Roster.Page} {field : Roster.SortField}
    {direction : Direction} (h : app.Reaches r .voters)
    (hq : r.query.ListsVoters pairs page field direction) {e : FilterError}
    (hspec : FilterSpec.ofParams pairs Dimension.allNames [] true = .error e) (year : Int) :
    ReplyRefused e.message app (app.respond year r) := by
  obtain ⟨fields, hfields, -⟩ := hq.fields
  have hfilters : r.query.filters listOptions true = .error e := hq.filters_eq.trans hspec
  exact h.replyRefused (.refused e) (run_answerVoters_of_error hfields hfilters app.session)

/-- The filters of a chart are refused before the store is asked. -/
theorem Application.Reaches.replyRefused_filters (h : app.Reaches r .chartData)
    (hq : r.query.CountsCombinations pairs) {e : FilterError}
    (hspec : FilterSpec.ofParams pairs Dimension.allNames [] false = .error e) (year : Int) :
    ReplyRefused e.message app (app.respond year r) :=
  h.replyRefused (.refused e) (hq.run_of_error hspec app.session)

/-- A chart of no combinations, or of too many, is refused before the store is asked. -/
theorem Application.Reaches.replyRefused_chart (h : app.Reaches r .chartData)
    (hq : r.query.CountsCombinations pairs)
    (hspec : FilterSpec.ofParams pairs Dimension.allNames [] false = .ok spec) {error : ChartError}
    (hrefused : chartCombinations spec Dimension.combinable (some maxCombinations) = .error error)
    (year : Int) : ReplyRefused error.message app (app.respond year r) :=
  h.replyRefused error (hq.run_of_refused hspec hrefused app.session)

/-- The counts of a chart are those that the next statements give. -/
theorem Application.Reaches.replyCharted (h : app.Reaches r .chartData)
    (hq : r.query.CountsCombinations pairs)
    (hspec : FilterSpec.ofParams pairs Dimension.allNames [] false = .ok spec)
    {combos : List Combination}
    (hcombos : chartCombinations spec Dimension.combinable (some maxCombinations) = .ok combos)
    (year : Int) :
    ReplyCharted
      (.of combos ((nextOutcomes combos.length app.session.outcomes).map Chart.countFrom) true)
      (combos.map (Chart.countStatement year (spec.without Dimension.combinable)))
      app (app.respond year r) := by
  have hcounts := Chart.run_combinationCounts_nextOutcomes year combos
    (spec.without Dimension.combinable) true app.session
  rw [h.respond_of_ok (hq.run_of_ok hspec hcombos hcounts) (isSendable_countsJson _)]
  exact ⟨rfl, rfl, rfl⟩

end Web

namespace CommandLine

variable {pairs : List (String × String)} {year : Int} {spec : FilterSpec} {session : Session}

/-! ## Commands -/

/-- Settings and a log level with which commands are carried out. -/
def Ready (env : List (String × String)) : Prop :=
  ∃ settings setup, (Settings.ofEnvironment env).toExcept = .ok settings ∧
    Log.LogSetup.ofName settings.logLevel settings.logDir.isSome = .ok setup

/-- A command is carried out in a session of its own. -/
theorem Ready.exists_run {env : List (String × String)} (h : Ready env) {words : List String}
    {command : Command} (hparse : Command.parse words = .ok command) (year : Int)
    (outcomes : List Outcome) : ∃ session, session.outcomes = outcomes ∧ session.asked = [] ∧
      run year env outcomes words =
        ((runCommand year session command).1, (runCommand year session command).2.asked) := by
  obtain ⟨settings, setup, hsettings, hsetup⟩ := h
  refine ⟨startSession settings outcomes, rfl, rfl, ?_⟩
  simp only [run, hparse, hsettings, hsetup]

/-- The voters are counted by one statement, and an integer is reported as it is. -/
theorem run_countVoters (year : Int) (spec : FilterSpec) (session : Session) :
    ((countVoters year spec).run.run session).2 = session.afterPut (.count (spec.predicate year)) ∧
      ∀ a n, nextOutcome session = .ok a → a.scalar = .int n →
        ((countVoters year spec).run.run session).1 = .ok n := by
  have hask := run_askGuarded (fun _ => false) (.count (spec.predicate year)) session
  cases hnext : nextOutcome session with
  | error f =>
    rw [hnext] at hask
    have hrun : (countVoters year spec).run.run session = _ := run_bind_of_error hask
    rw [hrun]
    exact ⟨rfl, nofun⟩
  | ok a =>
    rw [hnext] at hask
    have hrun : (countVoters year spec).run.run session =
      (read a.scalar.readInteger).run.run _ := run_bind_of_ok hask
    rw [hrun]
    refine ⟨?_, fun a' n ha hn => ?_⟩
    · cases a.scalar.readInteger <;> rfl
    · obtain rfl := Except.ok.inj ha
      rw [hn]
      rfl

/-- The filters of a command are refused as those of a request. -/
theorem readFilters_of_error (hkeys : ∀ p ∈ pairs, p.1 ∈ Dimension.allNames) {e : FilterError}
    {raiseCase : Bool}
    (hspec : FilterSpec.ofParams pairs Dimension.allNames [] raiseCase = .error e) :
    readFilters (pairs.map keyValue) raiseCase = .error (.refused e) := by
  rw [readFilters_keyValue hkeys, hspec]
  rfl

theorem readFilters_of_ok (hkeys : ∀ p ∈ pairs, p.1 ∈ Dimension.allNames) {raiseCase : Bool}
    (hspec : FilterSpec.ofParams pairs Dimension.allNames [] raiseCase = .ok spec) :
    readFilters (pairs.map keyValue) raiseCase = .ok spec := by
  rw [readFilters_keyValue hkeys, hspec]
  rfl

theorem readCombinations_of_error (hkeys : ∀ p ∈ pairs, p.1 ∈ Dimension.allNames)
    {e : FilterError}
    (hspec : FilterSpec.ofParams pairs Dimension.allNames [] false = .error e) :
    readCombinations (pairs.map keyValue) = .error (.refused e) := by
  rw [readCombinations, readFilters_of_error hkeys hspec]
  rfl

theorem readCombinations_of_refused (hkeys : ∀ p ∈ pairs, p.1 ∈ Dimension.allNames)
    (hspec : FilterSpec.ofParams pairs Dimension.allNames [] false = .ok spec) {error : ChartError}
    (hrefused : chartCombinations spec Dimension.combinable none = .error error) :
    readCombinations (pairs.map keyValue) = .error error.fault := by
  rw [readCombinations, readFilters_of_ok hkeys hspec]
  show ((chartCombinations spec Dimension.combinable none).mapError _ >>= _) = _
  rw [hrefused]
  cases error <;> rfl

theorem readCombinations_of_ok (hkeys : ∀ p ∈ pairs, p.1 ∈ Dimension.allNames)
    (hspec : FilterSpec.ofParams pairs Dimension.allNames [] false = .ok spec)
    {combos : List Combination}
    (hcombos : chartCombinations spec Dimension.combinable none = .ok combos) :
    readCombinations (pairs.map keyValue) = .ok (spec, combos) := by
  rw [readCombinations, readFilters_of_ok hkeys hspec]
  show ((chartCombinations spec Dimension.combinable none).mapError _ >>= _) = _
  rw [hcombos]
  rfl

/-! ## Lines -/

/-- A command line is refused with a message, and the store is asked nothing. -/
structure LineRefused (message : String) (line : Report × List Statement) : Prop where
  output : line.1.output = ""
  errorText : line.1.errorText = lines ["Error: " ++ message]
  exitCode : line.1.exitCode = 1
  asked : line.2 = []

/-- A command line writes the counts of a chart. -/
structure LineCharted (c : Chart.CombinationCounts) (put : List Statement)
    (line : Report × List Statement) : Prop where
  output : line.1.output = countsText c
  exitCode : line.1.exitCode = 0
  asked : line.2 = put

theorem lineRefused (error : ChartError) :
    LineRefused error.message (.ended (.refused error.fault), []) := by
  cases error <;> exact ⟨rfl, rfl, rfl, rfl⟩

variable {env : List (String × String)} {words : List String}

theorem Ready.lineRefused_count (h : Ready env) (hkeys : ∀ p ∈ pairs, p.1 ∈ Dimension.allNames)
    (hwords : Spelled words pairs) {e : FilterError}
    (hspec : FilterSpec.ofParams pairs Dimension.allNames [] true = .error e)
    (year : Int) (outcomes : List Outcome) :
    LineRefused e.message (run year env outcomes ("query" :: "count" :: words)) := by
  obtain ⟨session, -, hasked, hrun⟩ := h.exists_run (parse_count hwords) year outcomes
  rw [hrun, runCommand, readFilters_of_error hkeys hspec, orRefused, hasked]
  exact lineRefused (.refused e)

theorem Ready.run_count (h : Ready env) (hkeys : ∀ p ∈ pairs, p.1 ∈ Dimension.allNames)
    (hwords : Spelled words pairs)
    (hspec : FilterSpec.ofParams pairs Dimension.allNames [] true = .ok spec)
    (year : Int) (outcomes : List Outcome) :
    (run year env outcomes ("query" :: "count" :: words)).2 = [.count (spec.predicate year)] ∧
      ∀ a n, outcomes.head?.getD (.ok .nothing) = .ok a → a.scalar = .int n →
        (run year env outcomes ("query" :: "count" :: words)).1 = .wrote (countText n) := by
  obtain ⟨session, rfl, hasked, hrun⟩ := h.exists_run (parse_count hwords) year outcomes
  obtain ⟨hafter, hnumber⟩ := run_countVoters year spec session
  rw [hrun, runCommand, readFilters_of_ok hkeys hspec, orRefused]
  refine ⟨?_, fun a n ha hn => ?_⟩
  · rw [reported_snd, hafter, Session.afterPut, hasked]
    rfl
  · have hcounted : (countVoters year spec).run.run session =
        (.ok n, session.afterPut (.count (spec.predicate year))) :=
      Prod.ext (hnumber a n ha hn) hafter
    rw [reported_of_ok hcounted]

theorem Ready.lineRefused_combinations (h : Ready env) (hwords : SpelledWithCounts words pairs)
    (error : ChartError) (hrefused : readCombinations (pairs.map keyValue) = .error error.fault)
    (year : Int) (outcomes : List Outcome) :
    LineRefused error.message (run year env outcomes ("query" :: "combinations" :: words)) := by
  obtain ⟨session, -, hasked, hrun⟩ := h.exists_run (parse_combinations hwords) year outcomes
  rw [hrun, runCommand, hrefused, orRefused, hasked]
  exact lineRefused error

theorem Ready.lineCharted (h : Ready env) (hwords : SpelledWithCounts words pairs)
    {combos : List Combination}
    (hcombos : readCombinations (pairs.map keyValue) = .ok (spec, combos))
    (year : Int) (outcomes : List Outcome) :
    LineCharted (.of combos ((nextOutcomes combos.length outcomes).map Chart.countFrom) true)
      (combos.map (Chart.countStatement year (spec.without Dimension.combinable)))
      (run year env outcomes ("query" :: "combinations" :: words)) := by
  obtain ⟨session, rfl, hasked, hrun⟩ := h.exists_run (parse_combinations hwords) year outcomes
  have hcounts := Chart.run_combinationCounts_nextOutcomes year combos
    (spec.without Dimension.combinable) true session
  have hreported := reported_of_ok hcounts countsText
  rw [hasked, List.nil_append] at hreported
  rw [hrun, runCommand, hcombos, orRefused]
  simp only [if_true, hreported]
  exact ⟨rfl, rfl, rfl⟩

end CommandLine

/-! ## Both -/

/-- A command line and a request count the same voters: both put the same statement, before which
the request puts none, and after which it puts at most the one that reads the page. What the store
counts is the number that the command writes and the total that the request is answered with. -/
structure CountedAlike (p : Sql.Predicate) (page : Statement)
    (line : CommandLine.Report × List Statement) (app : Web.Application)
    (reply : Web.Response × Web.Application) : Prop where
  line_asked : line.2 = [.count p]
  asked : ∃ later, reply.2.session.asked = app.session.asked ++ .count p :: later ∧
    ∀ s ∈ later, s = page
  total : ∀ a n, nextOutcome app.session = .ok a → a.scalar = .int n →
    line.1 = .wrote (CommandLine.countText n) ∧
      (reply.1.status = 200 → ∃ j, reply.1.body = .json j ∧ Web.totalOf j = some (.int n))

open CommandLine Web in
theorem countedAlike {app : Application} {env : List (String × String)}
    {pairs : List (String × String)} {words : List String} {r : Request} {page : Roster.Page}
    {field : Roster.SortField} {direction : Direction} {spec : FilterSpec} (henv : Ready env)
    (hkeys : ∀ p ∈ pairs, p.1 ∈ Dimension.allNames) (hwords : Spelled words pairs)
    (h : app.Reaches r .voters) (hq : r.query.ListsVoters pairs page field direction)
    (hspec : FilterSpec.ofParams pairs Dimension.allNames [] true = .ok spec) (year : Int) :
    CountedAlike (spec.predicate year)
      (Roster.pageStatement (spec.predicate year) field direction page)
      (run year env app.session.outcomes ("query" :: "count" :: words)) app
      (app.respond year r) := by
  obtain ⟨hline, hwritten⟩ := henv.run_count hkeys hwords hspec year app.session.outcomes
  obtain ⟨later, hasked, hlater, htotal⟩ := asked_answerVoters hq hspec year app.session
  obtain ⟨hafter, hsent⟩ := h.respond_cases year
  refine ⟨hline, ⟨later, ?_, hlater⟩, fun a n ha hn => ⟨hwritten a n ha hn, fun hstatus => ?_⟩⟩
  · rw [hafter]
    exact hasked
  · obtain ⟨j, hj, hbody⟩ := hsent hstatus
    exact ⟨j, hbody, htotal j a n hj ha hn⟩

open CommandLine Web in
/-- Commands ask what requests ask. Filters that are spelled on a command line, or that stand among
the options of a request, are refused with the same message before the store is asked, or make the
same specification. The voters are counted by the same statement. The combinations of a chart are
counted by the same statements in the same order, and have the same counts where these have the same
outcomes. Only the request is refused for the number of its combinations. -/
theorem commands_ask_as_requests (year : Int) {env : List (String × String)} {app : Application}
    {pairs : List (String × String)} {countWords chartWords : List String} {listing chart : Request}
    {page : Roster.Page} {field : Roster.SortField} {direction : Direction}
    (hkeys : ∀ p ∈ pairs, p.1 ∈ Dimension.allNames) (henv : Ready env)
    (hcountWords : Spelled countWords pairs) (hchartWords : SpelledWithCounts chartWords pairs)
    (hlisting : app.Reaches listing .voters)
    (hlisted : listing.query.ListsVoters pairs page field direction)
    (hchart : app.Reaches chart .chartData) (hcharted : chart.query.CountsCombinations pairs) :
    let countLine := run year env app.session.outcomes ("query" :: "count" :: countWords)
    let chartLine := run year env app.session.outcomes ("query" :: "combinations" :: chartWords)
    (∀ e, FilterSpec.ofParams pairs Dimension.allNames [] true = .error e →
      LineRefused e.message countLine ∧ ReplyRefused e.message app (app.respond year listing)) ∧
    (∀ spec, FilterSpec.ofParams pairs Dimension.allNames [] true = .ok spec →
      CountedAlike (spec.predicate year)
        (Roster.pageStatement (spec.predicate year) field direction page)
        countLine app (app.respond year listing)) ∧
    (∀ e, FilterSpec.ofParams pairs Dimension.allNames [] false = .error e →
      LineRefused e.message chartLine ∧ ReplyRefused e.message app (app.respond year chart)) ∧
    ∀ spec, FilterSpec.ofParams pairs Dimension.allNames [] false = .ok spec →
      let count := spec.combinationCount Dimension.combinable
      let combos := spec.combinations Dimension.combinable
      let put := combos.map (Chart.countStatement year (spec.without Dimension.combinable))
      let counts := Chart.CombinationCounts.of combos
        ((nextOutcomes combos.length app.session.outcomes).map Chart.countFrom) true
      (count = 0 → LineRefused nothingSelectedMessage chartLine ∧
        ReplyRefused nothingSelectedMessage app (app.respond year chart)) ∧
      (1 ≤ count → LineCharted counts put chartLine) ∧
      (1 ≤ count → count ≤ maxCombinations →
        ReplyCharted counts put app (app.respond year chart)) ∧
      (maxCombinations < count → ReplyRefused
        (FilterError.tooManyCombinations count maxCombinations).message app
        (app.respond year chart)) := by
  intro countLine chartLine
  refine ⟨fun e he => ⟨?_, ?_⟩, fun spec hspec => ?_, fun e he => ⟨?_, ?_⟩, fun spec hspec => ?_⟩
  · exact henv.lineRefused_count hkeys hcountWords he year app.session.outcomes
  · exact hlisting.replyRefused_list hlisted he year
  · exact countedAlike henv hkeys hcountWords hlisting hlisted hspec year
  · exact henv.lineRefused_combinations hchartWords (.refused e)
      (readCombinations_of_error hkeys he) year app.session.outcomes
  · exact hchart.replyRefused_filters hcharted he year
  · intro count combos put counts
    refine ⟨fun hnone => ⟨?_, ?_⟩, fun hsome => ?_, fun hsome hlimit => ?_, fun hlimit => ?_⟩
    · have hrefused : chartCombinations spec Dimension.combinable none = .error .nothingSelected :=
        FilterSpec.chartCombinations_of_count_eq_zero hnone
      exact henv.lineRefused_combinations hchartWords .nothingSelected
        (readCombinations_of_refused hkeys hspec hrefused) year app.session.outcomes
    · exact hchart.replyRefused_chart hcharted hspec
        (FilterSpec.chartCombinations_of_count_eq_zero hnone) year
    · have hcombos : chartCombinations spec Dimension.combinable none = .ok combos :=
        FilterSpec.chartCombinations_eq_ok_iff.mpr ⟨hsome, nofun, rfl⟩
      exact henv.lineCharted hchartWords (readCombinations_of_ok hkeys hspec hcombos) year
        app.session.outcomes
    · have hcombos : chartCombinations spec Dimension.combinable (some maxCombinations) =
          .ok combos := by
        refine FilterSpec.chartCombinations_eq_ok_iff.mpr ⟨hsome, fun m hm => ?_, rfl⟩
        obtain rfl := Option.some.inj hm
        exact hlimit
      exact hchart.replyCharted hcharted hspec hcombos year
    · have hsome : 1 ≤ count := by
        unfold maxCombinations at hlimit
        omega
      exact hchart.replyRefused_chart hcharted hspec
        (FilterSpec.chartCombinations_of_limit_lt hsome hlimit) year

open CommandLine Web in
/-- Two filters that are spelled in four ways: the voters are counted by the statement of a request,
and the chart is that of a request. -/
theorem commands_ask_as_requests_fulton :
    let pairs := [("county", "Fulton"), ("race", "Black")]
    let env := [("DATABASE_URL", "db")]
    let countWords := ["--filter", "county=Fulton", "-frace=Black"]
    let chartWords := ["-f", "county=Fulton", "--counts", "--filter=race=Black"]
    let app : Application := ⟨Settings.ofUrl "db", true, .empty,
      ⟨[.ok ⟨[], .int 3, []⟩], [], .empty 1 1, 0⟩⟩
    let listing : Request := ⟨"GET", "/api/v1/voters", pairs, [], none⟩
    let chart : Request := ⟨"GET", "/api/v1/voters/chart-data", pairs, [], none⟩
    (∀ p ∈ pairs, p.1 ∈ Dimension.allNames) ∧ Ready env ∧ Spelled countWords pairs ∧
    SpelledWithCounts chartWords pairs ∧ app.Reaches listing .voters ∧
    listing.query.ListsVoters pairs .first .name .ascending ∧ app.Reaches chart .chartData ∧
    chart.query.CountsCombinations pairs ∧
    (∃ p page, CountedAlike p page
      (run 2024 env app.session.outcomes ("query" :: "count" :: countWords)) app
      (app.respond 2024 listing)) ∧
    ∃ c put, LineCharted c put
        (run 2024 env app.session.outcomes ("query" :: "combinations" :: chartWords)) ∧
      ReplyCharted c put app (app.respond 2024 chart) := by
  intro pairs env countWords chartWords app listing chart
  have hkeys : ∀ p ∈ pairs, p.1 ∈ Dimension.allNames := by decide
  have henv : Ready env := by
    refine ⟨Settings.ofUrl "db", ?_⟩
    rw [Settings.ofEnvironment_url]
    exact ⟨_, rfl, rfl⟩
  have hcountWords : Spelled countWords pairs :=
    .named ("county", "Fulton") (.attached ("race", "Black") .nil)
  have hchartWords : SpelledWithCounts chartWords pairs :=
    ⟨["-f", "county=Fulton"], ["--filter=race=Black"], [("county", "Fulton")],
      [("race", "Black")], rfl, rfl, .lettered ("county", "Fulton") .nil,
      .joined ("race", "Black") .nil⟩
  have hlisting : app.Reaches listing .voters := ⟨rfl, by decide +kernel, rfl, by decide +kernel⟩
  have hlisted : listing.query.ListsVoters pairs .first .name .ascending :=
    Query.listsVoters_self hkeys
  have hchart : app.Reaches chart .chartData := ⟨rfl, by decide +kernel, rfl, by decide +kernel⟩
  have hcharted : chart.query.CountsCombinations pairs := Query.countsCombinations_self hkeys
  obtain ⟨raised, hraised⟩ :
      ∃ spec, FilterSpec.ofParams pairs Dimension.allNames [] true = .ok spec := ⟨_, rfl⟩
  obtain ⟨spec, hspec, hcount⟩ :
      ∃ spec, FilterSpec.ofParams pairs Dimension.allNames [] false = .ok spec ∧
        spec.combinationCount Dimension.combinable = 1 := ⟨_, rfl, rfl⟩
  obtain ⟨-, hcounted, -, hdrawn⟩ := commands_ask_as_requests 2024 hkeys henv hcountWords
    hchartWords hlisting hlisted hchart hcharted
  obtain ⟨-, hline, hreply, -⟩ := hdrawn spec hspec
  exact ⟨hkeys, henv, hcountWords, hchartWords, hlisting, hlisted, hchart, hcharted,
    ⟨_, _, hcounted raised hraised⟩, _, _, hline hcount.ge,
    hreply hcount.ge (by rw [hcount]; decide)⟩

end Electorate
