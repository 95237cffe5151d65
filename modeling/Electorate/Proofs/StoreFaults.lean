import Electorate.Chart.Series
import Electorate.Chart.Snapshot
import Electorate.Proofs.Inquiry
import Electorate.Roster.Household
import Electorate.Roster.Listing
import Electorate.Roster.Lookup
import Electorate.Roster.MapStats
import Electorate.Web.Handler

/-!
# Faults of the store

What a voter list, a household, a viewport, the values of a field, a snapshot and the totals of
years make of a fault of one of their statements.

* `reports_listVoters`, `reports_household`, `reports_mapStats`, `reports_lookup`: the faults that
  the driver reports are a store that cannot be used; a fault of the connection or of time is passed
  on as it is.
* `reports_snapshot`, `reports_totals`: faults of the connection and of time are that as well.
* `failsAs_countsOverTime`: a chart of shares fails with its totals.
* `faults_reported`: all of them together.
-/

namespace Electorate

open Electorate.Store

namespace Roster

theorem reports_listVoters (year : Int) (spec : FilterSpec) (page : Page)
    (field direction : String) :
    Reports ofDriver (listVoters year spec page field direction) :=
  .bind (.liftExcept nofun) fun _ => .bind (.liftExcept nofun) fun _ =>
    .bind (.askGuarded _) fun _ => .bind (.askGuarded _) fun _ => .pure _

theorem reports_household (number : String) : Reports ofDriver (household number) := by
  refine .bind (.askGuarded _) fun found => ?_
  split
  · exact .pure _
  · split
    · exact .pure _
    · exact .bind (.askGuarded _) fun others => .pure _

theorem reports_mapStats (year : Int) (spec : FilterSpec) (box : Geo.Box Float) :
    Reports ofDriver (mapStats year spec box) :=
  .bind (.askGuarded _) fun _ => .read _

theorem reports_lookup (names : List String) : Reports ofDriver (lookup names) := by
  refine .bind (.liftExcept nofun) fun fields => .mapM (fun field => ?_) _
  exact .bind (.askGuarded _) fun answer => .bind (.read _) fun values => .pure _

end Roster

namespace Chart

theorem reports_ofRow (row : Row) :
    Reports ofStore (liftExcept (CategoryCount.ofRow row) : Inquiry Failure CategoryCount) := by
  unfold CategoryCount.ofRow
  split
  · exact .liftExcept nofun
  · exact .throw nofun

theorem reports_snapshot (year : Int) (spec : FilterSpec) (groupBy : String) :
    Reports ofStore (snapshot year spec groupBy) := by
  unfold snapshot
  cases Grouping.ofName? groupBy with
  | none => exact .throw nofun
  | some grouping =>
    exact .bind (.askGuarded _) fun answer =>
      .bind (.mapM reports_ofRow _) fun categories => .pure _

theorem reports_countTotals (years : List Int) : Reports ofStore (countTotals years) :=
  .bind (.liftExcept nofun) fun _ => .bind (.askGuarded _) fun _ => .read _

/-- The totals that are asked for where they are not kept, and kept for later. -/
def freshTotals (years : List Int) : Inquiry Failure YearCounts := do
  let counts ← countTotals years
  modify fun s => { s with totals := s.totals.set s.now (totalsKey years) counts }
  return counts

theorem run_totals_of_some {years : List Int} {session : Session} {counts : YearCounts}
    {cache : ResultCache YearCounts}
    (h : session.totals.get session.now (totalsKey years) = (some counts, cache)) :
    (totals years).run.run session = (.ok counts, { session with totals := cache }) := by
  refine (run_bind_of_ok (a := session) rfl).trans ?_
  rw [h]
  rfl

theorem run_totals_of_none {years : List Int} {session : Session}
    {cache : ResultCache YearCounts}
    (h : session.totals.get session.now (totalsKey years) = (none, cache)) :
    (totals years).run.run session =
      (freshTotals years).run.run { session with totals := cache } := by
  refine (run_bind_of_ok (a := session) rfl).trans ?_
  rw [h]
  rfl

theorem reports_totals (years : List Int) : Reports ofStore (totals years) := by
  intro session
  rcases h : session.totals.get session.now (totalsKey years) with ⟨_ | counts, cache⟩
  · rw [run_totals_of_none h]
    have hfresh : Reports ofStore (freshTotals years) :=
      .bind (reports_countTotals years) fun counts =>
        .bind (.modify (fun _ => rfl) fun _ => rfl) fun _ => .pure counts
    obtain ⟨put, hput⟩ := hfresh { session with totals := cache }
    exact ⟨put, hput.of_start rfl rfl⟩
  · rw [run_totals_of_some h]
    exact ⟨[], .nil rfl rfl nofun⟩

/-- The totals of a chart of shares, which it asks for first. -/
def seriesTotals (years : List Int) : Inquiry Failure YearCounts := do
  let years ← liftExcept ((uniqueYears years).mapError Failure.refused)
  totals years

theorem reports_seriesTotals (years : List Int) : Reports ofStore (seriesTotals years) :=
  .bind (.liftExcept nofun) fun years => reports_totals years

/-- A chart of shares fails with its totals, and asks for nothing after them. -/
theorem failsAs_countsOverTime (year : Int) (combinations : List Combination) (years : List Int)
    (base : FilterSpec) :
    FailsAs (seriesTotals years) (countsOverTime year combinations years base true) := by
  unfold seriesTotals countsOverTime
  exact .bind_right _ fun years => failsAs_bind _ _

end Chart

/-- The inquiries that may not do without an answer. Those for voters and values report what the
driver reports as a store that cannot be used, those for charts also faults of the connection and of
time; a chart of shares does so through its totals. Requests get the answer 503. -/
theorem faults_reported (year : Int) :
    (∀ spec page field direction,
      Reports ofDriver (Roster.listVoters year spec page field direction)) ∧
    (∀ number, Reports ofDriver (Roster.household number)) ∧
    (∀ spec box, Reports ofDriver (Roster.mapStats year spec box)) ∧
    (∀ names, Reports ofDriver (Roster.lookup names)) ∧
    (∀ spec groupBy, Reports ofStore (Chart.snapshot year spec groupBy)) ∧
    (∀ years, Reports ofStore (Chart.totals years) ∧ Reports ofStore (Chart.seriesTotals years) ∧
      ∀ combinations base, FailsAs (Chart.seriesTotals years)
        (Chart.countsOverTime year combinations years base true)) ∧
    Web.failureResponse? .unavailable = some (Web.detail 503 unavailableMessage) := by
  refine ⟨Roster.reports_listVoters year, Roster.reports_household, Roster.reports_mapStats year,
    Roster.reports_lookup, Chart.reports_snapshot year, fun years => ?_, rfl⟩
  exact ⟨Chart.reports_totals years, Chart.reports_seriesTotals years, fun combinations base =>
    Chart.failsAs_countsOverTime year combinations years base⟩

/-- A list of voters does not report a fault of the connection as a store that cannot be used. -/
theorem not_reports_connection :
    ¬ Reports ofStore (Roster.listVoters 2024 .empty .first "name" "asc") := by
  intro h
  let session : Session := ⟨[.error ⟨.connection, "down"⟩], [], .empty 256 3600, 0⟩
  obtain ⟨put, hput⟩ := h session
  have hasked : ((Roster.listVoters 2024 .empty .first "name" "asc").run.run session).2.asked =
      [.count (FilterSpec.empty.predicate 2024)] := rfl
  have hresult : ((Roster.listVoters 2024 .empty .first "name" "asc").run.run session).1 =
      .error (.fault ⟨.connection, "down"⟩) := rfl
  have hone : put = [.count (FilterSpec.empty.predicate 2024)] := hput.asked.symm.trans hasked
  have hreport := (hput.fault 0 ⟨.connection, "down"⟩ (by simp [hone]) rfl).2
  rw [hresult] at hreport
  cases hreport

end Electorate
