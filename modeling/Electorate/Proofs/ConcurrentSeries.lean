import Electorate.Proofs.ConcurrentCounts
import Electorate.Proofs.Shares
import Electorate.Proofs.Traversal
import Electorate.Proofs.YearCounts

/-!
# Series side by side

A chart over the years first fixes its years and, if it shows shares, the totals; a failure there is
the answer, and nothing else is asked. Then the queries of its combinations run side by side, each
with a statement of its own.

* `baseline`, `chartFrom`: the two parts of a chart, with the queries between them.
* `Step`, `History`, `Run`: the queries side by side, and a chart made of them.
* `Step.counting`, `History.counting`: the same events are possible where the combinations are counted,
  so that what holds of queries side by side is known.
* `CountShown`, `Point`, `Aligned`: what a chart shows.
* `run_countsOverTime`: the queries one after the other.
* `series_aligned`: all charts.
-/

namespace Electorate.Chart

open Electorate.Store

/-! ## The parts of a chart -/

/-- The years of a chart and, if it shows shares, the totals. -/
def baseline (years : List Int) (ratio : Bool) : Inquiry Failure (List Int × YearCounts) := do
  let years ← liftExcept ((uniqueYears years).mapError Failure.refused)
  let totals ← if ratio then totals years else pure []
  return (years, totals)

/-- A chart from the counts of its combinations. -/
def chartFrom (combos : List Combination) (ratio : Bool) (years : List Int) (totals : YearCounts)
    (counts : List YearCounts) : Except Failure SeriesChart :=
  let data : Except CellError (List (List Datum)) :=
    if ratio then counts.mapM (shareData years totals) else .ok (counts.map (countData years))
  (data.mapError .unreadable).map fun data =>
    ⟨years, List.zipWith (fun c d => ⟨c.label, c.filters, d⟩) combos data⟩

/-- The queries stand between the two parts. -/
theorem countsOverTime_eq (year : Int) (combos : List Combination) (years : List Int)
    (base : FilterSpec) (ratio : Bool) :
    countsOverTime year combos years base ratio = (do
      let b ← baseline years ratio
      let counts ← combos.mapM (countYears year base b.1)
      liftExcept (chartFrom combos ratio b.1 b.2 counts)) := by
  cases ratio with
  | false =>
    simp only [countsOverTime, baseline, bind_assoc, pure_bind, Bool.false_eq_true, if_false]
    rfl
  | true =>
    have hlast (ys : List Int) (totals : YearCounts) (counts : List YearCounts) :
        (do
          let data ← read (counts.mapM (shareData ys totals))
          return ⟨ys, List.zipWith (fun c d => ⟨c.label, c.filters, d⟩) combos data⟩) =
        (liftExcept (chartFrom combos true ys totals counts) : Inquiry Failure SeriesChart) := by
      simp only [chartFrom, if_true]
      cases counts.mapM (shareData ys totals) <;> rfl
    simp only [countsOverTime, baseline, bind_assoc, pure_bind, if_true, hlast]

/-! ## The years and the totals -/

/-- Totals of the years of a chart: the kept ones, or those of the rows of their statement. -/
structure TotalsOf (session : Session) (ys : List Int) (totals : YearCounts) : Prop where
  of_kept : ∀ counts cache, session.totals.get session.now (totalsKey ys) = (some counts, cache) →
    totals = counts
  of_rows : ∀ cache a pairs, session.totals.get session.now (totalsKey ys) = (none, cache) →
    nextOutcome session = .ok a → a.rows.mapM readYearCount = .ok pairs →
    ∀ y, Tallied pairs y (countOf totals y)

/-- Why there are no totals: their statement ends in a fault, or its rows cannot be read. -/
inductive NoTotals (session : Session) : Failure → Prop where
  | fault {f : Fault} (h : nextOutcome session = .error f) : NoTotals session (report ofStore f)
  | unreadable {a : Answer} {e : CellError} (h : nextOutcome session = .ok a)
      (hrows : a.rows.mapM readYearCount = .error e) : NoTotals session (.unreadable e)

theorem totalsFrom_cases (session : Session) :
    (∃ e, totalsFrom (nextOutcome session) = .error e ∧ NoTotals session e) ∨
      ∃ a pairs totals, nextOutcome session = .ok a ∧ a.rows.mapM readYearCount = .ok pairs ∧
        totalsFrom (nextOutcome session) = .ok totals ∧ ∀ y, Tallied pairs y (countOf totals y) := by
  cases hnext : nextOutcome session with
  | error f => exact .inl ⟨_, rfl, .fault hnext⟩
  | ok a =>
    cases hrows : a.rows.mapM readYearCount with
    | error e =>
      have hread : readYearCounts a.rows = .error e := by
        rw [readYearCounts, hrows]
        rfl
      refine .inl ⟨.unreadable e, ?_, .unreadable hnext hrows⟩
      show (readYearCounts a.rows).mapError Failure.unreadable = _
      rw [hread]
      rfl
    | ok pairs =>
      obtain ⟨totals, hread, htallied⟩ := tallied_readYearCounts hrows
      refine .inr ⟨a, pairs, totals, rfl, hrows, ?_, htallied⟩
      show (readYearCounts a.rows).mapError Failure.unreadable = _
      rw [hread]
      rfl

variable {years : List Int} {session : Session}

/-- Totals that are kept are taken. Others are asked for with one statement. -/
theorem run_totals_cases {ys : List Int} (hne : ys ≠ []) (hnodup : ys.Nodup) (session : Session) :
    (∃ counts after, (totals ys).run.run session = (.ok counts, after) ∧ TotalsOf session ys counts) ∨
      ∃ e after cache, (totals ys).run.run session = (.error e, after) ∧
        session.totals.get session.now (totalsKey ys) = (none, cache) ∧ NoTotals session e ∧
        after.asked = session.asked ++ [.countByYear ys .always] := by
  rcases hget : session.totals.get session.now (totalsKey ys) with ⟨_ | counts, cache⟩
  -- Nothing is kept, so that the answer of the statement counts.
  · obtain ⟨after, hrun, hasked⟩ := run_totals_asked hne hnodup hget
    obtain ⟨e, he, hno⟩ | ⟨a, pairs, totals, hnext, hrows, htotals, htallied⟩ :=
      totalsFrom_cases session
    · rw [he] at hrun
      exact .inr ⟨e, after, cache, hrun, rfl, hno, hasked⟩
    · rw [htotals] at hrun
      refine .inl ⟨totals, after, hrun, fun counts cache' h => ?_, fun cache' a' pairs' _ hnext' hrows' => ?_⟩
      · rw [hget] at h
        cases h
      · rw [hnext] at hnext'
        obtain rfl := Except.ok.inj hnext'
        rw [hrows] at hrows'
        obtain rfl := Except.ok.inj hrows'
        exact htallied
  -- What is kept is taken, and no answer is read.
  · refine .inl ⟨counts, _, run_totals_of_some hget, fun counts' cache' h => ?_, fun cache' a pairs h => ?_⟩
    · rw [hget] at h
      cases h
      rfl
    · rw [hget] at h
      cases h

theorem distinct_ne_nil (h : years ≠ []) : distinct years ≠ [] := by
  obtain ⟨y, hy⟩ := List.exists_mem_of_ne_nil years h
  exact List.ne_nil_of_mem (mem_distinct.2 hy)

theorem run_baseline_counts (h : years ≠ []) (session : Session) :
    (baseline years false).run.run session = (.ok (distinct years, []), session) := by
  rw [baseline, uniqueYears_of_ne_nil h]
  rfl

theorem run_baseline_shares (h : years ≠ []) (session : Session) :
    (baseline years true).run.run session =
      (((totals (distinct years)).run.run session).1.map fun totals => (distinct years, totals),
        ((totals (distinct years)).run.run session).2) := by
  rw [baseline, uniqueYears_of_ne_nil h]
  refine (run_bind_of_ok (a := distinct years) rfl).trans ?_
  rcases hrun : (totals (distinct years)).run.run session with ⟨e | totals, after⟩
  · exact run_bind_of_error hrun
  · exact run_bind_of_ok hrun

/-- A chart has its years, and its totals if it shows shares, or fails with its totals. -/
theorem run_baseline_cases (h : years ≠ []) (ratio : Bool) (session : Session) :
    (∃ totals mid, (baseline years ratio).run.run session = (.ok (distinct years, totals), mid) ∧
      (ratio = true → TotalsOf session (distinct years) totals)) ∨
      ∃ e after cache, (baseline years ratio).run.run session = (.error e, after) ∧ ratio = true ∧
        session.totals.get session.now (totalsKey (distinct years)) = (none, cache) ∧
        NoTotals session e ∧
        after.asked = session.asked ++ [.countByYear (distinct years) .always] := by
  cases ratio with
  | false => exact .inl ⟨[], session, run_baseline_counts h session, nofun⟩
  | true =>
    rw [run_baseline_shares h]
    obtain ⟨totals, after, hrun, htotals⟩ | ⟨e, after, cache, hrun, hget, hno, hasked⟩ :=
      run_totals_cases (distinct_ne_nil h) (nodup_distinct years) session
    · rw [hrun]
      exact .inl ⟨totals, after, rfl, fun _ => htotals⟩
    · rw [hrun]
      exact .inr ⟨e, after, cache, rfl, rfl, hget, hno, hasked⟩

namespace OverTime

/-! ## Queries side by side -/

section

variable (year : Int) (base : FilterSpec) (ys : List Int) (combos : List Combination)

/-- One event of the queries of a chart over the years. -/
inductive Step (s : Gathering) : Event → Gathering → Prop where
  | acquire {i free : Nat} (hp : s.phases[i]? = some .waiting) (hf : s.free = free + 1) :
    Step s (.acquire i) ⟨free, s.phases.set i .admitted, s.asked⟩
  | put {i : Nat} {c : Combination} (hp : s.phases[i]? = some .admitted)
      (hc : combos[i]? = some c) :
    Step s (.put i)
      ⟨s.free, s.phases.set i .inFlight, s.asked ++ [(i, yearsStatement year base ys c)]⟩
  | refuse {i : Nat} (hp : s.phases[i]? = some .admitted) :
    Step s (.refuse i) ⟨s.free + 1, s.phases.set i (.ended none), s.asked⟩
  | finish {i : Nat} {o : Outcome} (hp : s.phases[i]? = some .inFlight) :
    Step s (.finish i o) ⟨s.free + 1, s.phases.set i (.ended (some o)), s.asked⟩

/-- The events from the start to a state. -/
inductive History (k : Nat) : List Event → Gathering → Prop where
  | start : History k [] (.start k combos.length)
  | step {es : List Event} {e : Event} {s s' : Gathering} (h : History k es s)
      (hs : Step year base ys combos s e s') : History k (es ++ [e]) s'

/-- The same state with the statements that count the combinations in place of those that count
them per year. -/
def byCounting (s : Gathering) : Gathering :=
  { s with asked := s.asked.map fun entry =>
      (entry.1, (combos[entry.1]?.map (countStatement year base)).getD entry.2) }

end

variable {year : Int} {base : FilterSpec} {ys : List Int} {combos : List Combination} {k : Nat}
  {es : List Event} {e : Event} {s s' : Gathering}

/-- The same event is possible where the combinations are counted. -/
theorem Step.counting (hs : Step year base ys combos s e s') :
    Chart.Step year base combos (byCounting year base combos s) e (byCounting year base combos s') := by
  cases hs with
  | acquire hp hf => exact .acquire hp hf
  | put hp hc =>
    have hput : Chart.Step year base combos (byCounting year base combos s) _ _ := .put hp hc
    simp only [byCounting, List.map_append, List.map_cons, List.map_nil, hc]
    exact hput
  | refuse hp => exact .refuse hp
  | finish hp => exact .finish hp

theorem History.counting (h : History year base ys combos k es s) :
    Chart.History year base combos k es (byCounting year base combos s) := by
  induction h with
  | start => exact .start
  | step _ hs ih => exact ih.step hs.counting

/-- What holds of queries side by side. -/
theorem History.inv (h : History year base ys combos k es s) :
    Inv year base combos k es (byCounting year base combos s) :=
  h.counting.inv

theorem length_phases (h : History year base ys combos k es s) : s.phases.length = combos.length :=
  h.inv.length_phases

/-- No other statements are put than those of the combinations. -/
theorem History.own (h : History year base ys combos k es s) :
    ∀ entry ∈ s.asked, ∃ c, combos[entry.1]? = some c ∧ entry.2 = yearsStatement year base ys c := by
  induction h with
  | start => exact nofun
  | @step es e s s' _ hs ih =>
    cases hs with
    | acquire | refuse | finish => exact ih
    | put hp hc =>
      intro entry hentry
      obtain hentry | hlast := List.mem_append.1 hentry
      · exact ih entry hentry
      · obtain rfl := List.mem_singleton.1 hlast
        exact ⟨_, hc, rfl⟩

theorem askedBy_byCounting (s : Gathering) (i : Nat) :
    ((byCounting year base combos s).askedBy i).length = (s.askedBy i).length := by
  rw [Gathering.askedBy, byCounting, List.filter_map, List.length_map]
  rfl

/-- A query whose statement has an outcome has put its own statement, and has put it once. -/
theorem History.askedBy_of_finish (h : History year base ys combos k es s) {i : Nat} {o : Outcome}
    (ho : Event.finish i o ∈ es) :
    ∃ c, combos[i]? = some c ∧ s.askedBy i = [(i, yearsStatement year base ys c)] := by
  have hphase := h.inv.finish_mem_iff.1 ho
  have hi : i < combos.length := by
    rw [← h.inv.length_phases]
    exact (List.getElem?_eq_some_iff.1 hphase).1
  have hlength : (s.askedBy i).length = 1 := by
    rw [← askedBy_byCounting, h.inv.askedBy, hphase, ownStatement, List.getElem?_eq_getElem hi]
    rfl
  obtain ⟨entry, hentry⟩ := List.length_eq_one_iff.1 hlength
  have hmem : entry ∈ s.askedBy i := hentry ▸ List.mem_singleton_self entry
  obtain ⟨hasked, hplace⟩ := List.mem_filter.1 hmem
  obtain rfl : entry.1 = i := of_decide_eq_true hplace
  obtain ⟨c, hc, hstatement⟩ := h.own entry hasked
  exact ⟨c, hc, by rw [hentry, ← hstatement]⟩

/-! ## No history is stuck -/

theorem Step.of_counting {t : Gathering}
    (hs : Chart.Step year base combos (byCounting year base combos s) e t) :
    ∃ s', Step year base ys combos s e s' := by
  cases hs with
  | acquire hp hf => exact ⟨_, .acquire hp hf⟩
  | put hp hc => exact ⟨_, .put hp hc⟩
  | refuse hp => exact ⟨_, .refuse hp⟩
  | finish hp => exact ⟨_, .finish hp⟩

/-- With a permit at all, every history can be brought to its end. -/
theorem History.exists_complete (h : History year base ys combos k es s) (hk : 1 ≤ k) :
    ∃ more s', History year base ys combos k (es ++ more) s' ∧ s'.Complete := by
  induction hl : s.stepsLeft using Nat.strongRecOn generalizing es s with
  | _ n ih =>
    subst hl
    by_cases hc : s.Complete
    · exact ⟨[], s, by rwa [List.append_nil], hc⟩
    · obtain ⟨e, t, ht⟩ := h.inv.exists_step hk hc
      obtain ⟨s', hs⟩ := @Step.of_counting _ _ ys _ _ _ _ ht
      obtain ⟨more, s'', h', hc'⟩ := ih _ hs.counting.stepsLeft_lt (h.step hs) rfl
      rw [List.append_assoc] at h'
      exact ⟨e :: more, s'', h', hc'⟩

/-! ## What is shown -/

/-- The counts per year that a query gives; none without an outcome. -/
def countsOf : Phase → YearCounts
  | .ended (some o) => yearCountsFrom o
  | _ => []

/-- The count that is shown for the combination at a place and a year. -/
structure CountShown (es : List Event) (i : Nat) (y n : Int) : Prop where
  ended : Event.refuse i ∈ es ∨ ∃ o, Event.finish i o ∈ es
  /-- A query without a session counts as zero. -/
  of_refuse : Event.refuse i ∈ es → n = 0
  /-- So does one that ends in a fault, of whatever kind, -/
  of_fault : ∀ f, Event.finish i (.error f) ∈ es → n = 0
  /-- and one whose rows cannot be read. -/
  of_unreadable : ∀ a e, Event.finish i (.ok a) ∈ es → a.rows.mapM readYearCount = .error e → n = 0
  /-- Otherwise it is the count of the year's row, zero without one. -/
  of_rows : ∀ a pairs, Event.finish i (.ok a) ∈ es → a.rows.mapM readYearCount = .ok pairs →
    ∃ count, Tallied pairs y count ∧ n = count.getD 0

theorem yearCountsFrom_of_error {a : Answer} {e : CellError}
    (h : a.rows.mapM readYearCount = .error e) : yearCountsFrom (.ok a) = [] := by
  have hread : readYearCounts a.rows = .error e := by
    rw [readYearCounts, h]
    rfl
  show (readYearCounts a.rows).toOption.getD [] = []
  rw [hread]
  rfl

theorem tallied_yearCountsFrom {a : Answer} {pairs : List (Int × Int)}
    (h : a.rows.mapM readYearCount = .ok pairs) (y : Int) :
    Tallied pairs y (countOf (yearCountsFrom (.ok a)) y) := by
  obtain ⟨counts, hread, htallied⟩ := tallied_readYearCounts h
  have hcounts : yearCountsFrom (.ok a) = counts := by
    show (readYearCounts a.rows).toOption.getD [] = counts
    rw [hread]
    rfl
  rw [hcounts]
  exact htallied y

/-- At the end each query has a count for every year. -/
theorem History.countShown (h : History year base ys combos k es s) (hc : s.Complete) {i : Nat}
    (hi : i < combos.length) (y : Int) :
    ∃ p, s.phases[i]? = some p ∧ CountShown es i y ((countOf (countsOf p) y).getD 0) := by
  obtain ⟨r, hr⟩ := h.inv.exists_ended hc hi
  have hrefuse : Event.refuse i ∈ es ↔ r = none := by
    rw [h.inv.refuse_mem_iff, hr]
    simp
  have hfinish (o : Outcome) : Event.finish i o ∈ es ↔ r = some o := by
    rw [h.inv.finish_mem_iff, hr]
    simp
  refine ⟨.ended r, hr, ?_, ?_, ?_, ?_, ?_⟩
  · cases r with
    | none => exact .inl (hrefuse.2 rfl)
    | some o => exact .inr ⟨o, (hfinish o).2 rfl⟩
  · intro hm
    obtain rfl := hrefuse.1 hm
    rfl
  · intro f hm
    obtain rfl := (hfinish _).1 hm
    rfl
  · intro a e hm hrows
    obtain rfl := (hfinish _).1 hm
    rw [countsOf, yearCountsFrom_of_error hrows]
    rfl
  · intro a pairs hm hrows
    obtain rfl := (hfinish _).1 hm
    exact ⟨_, tallied_yearCountsFrom hrows y, rfl⟩

/-- What is shown for a count: the count itself, or its share of the total of the year. -/
inductive Point (ratio : Bool) (total : Option Int) (n : Int) : Datum → Prop where
  | count (h : ratio = false) : Point ratio total n (.count n)
  | share {v : Option Float} (h : ratio = true) (hv : IsShare total n v) :
    Point ratio total n (.share v)

/-- The values that are shown for counts, one per year. -/
def Shows (ratio : Bool) (ys : List Int) (totals counts : YearCounts) (data : List Datum) : Prop :=
  List.Forall₂ (fun y d => Point ratio (countOf totals y) ((countOf counts y).getD 0) d) ys data

theorem shows_countData (totals counts : YearCounts) :
    Shows false ys totals counts (countData ys counts) := by
  rw [Shows, countData, List.forall₂_map_right_iff, List.forall₂_same]
  exact fun y _ => .count rfl

theorem shareData_cases (ys : List Int) (totals counts : YearCounts) :
    (∃ data, shareData ys totals counts = .ok data ∧ Shows true ys totals counts data) ∨
      ∃ e, shareData ys totals counts = .error e ∧ e = .quotientTooLarge ∧
        ∃ y ∈ ys, Beyond (countOf totals y) ((countOf counts y).getD 0) := by
  refine mapM_cases fun y hy => ?_
  obtain ⟨v, hv, hshare⟩ | ⟨hlarge, hbeyond⟩ :=
    share_cases ((countOf counts y).getD 0) (countOf totals y)
  · rw [hv]
    exact .inl ⟨.share v, rfl, .share rfl hshare⟩
  · rw [hlarge]
    exact .inr ⟨_, rfl, rfl, y, hy, hbeyond⟩

/-- The values of all combinations are shown, or a share is beyond all doubles. -/
theorem chartFrom_cases (combos : List Combination) (ratio : Bool) (ys : List Int)
    (totals : YearCounts) (counts : List YearCounts) :
    (∃ data, chartFrom combos ratio ys totals counts =
        .ok ⟨ys, List.zipWith (fun c d => ⟨c.label, c.filters, d⟩) combos data⟩ ∧
      List.Forall₂ (Shows ratio ys totals) counts data) ∨
      (chartFrom combos ratio ys totals counts = .error (.unreadable .quotientTooLarge) ∧
        ratio = true ∧ ∃ c ∈ counts, ∃ y ∈ ys, Beyond (countOf totals y) ((countOf c y).getD 0)) := by
  cases ratio with
  | false =>
    refine .inl ⟨counts.map (countData ys), rfl, ?_⟩
    rw [List.forall₂_map_right_iff, List.forall₂_same]
    exact fun c _ => shows_countData totals c
  | true =>
    have heach : ∀ c ∈ counts,
        (∃ data, shareData ys totals c = .ok data ∧ Shows true ys totals c data) ∨
          ∃ e, shareData ys totals c = .error e ∧ e = .quotientTooLarge ∧
            ∃ c ∈ counts, ∃ y ∈ ys, Beyond (countOf totals y) ((countOf c y).getD 0) := by
      intro c hc
      refine (shareData_cases ys totals c).imp_right ?_
      rintro ⟨e, he, hlarge, hbeyond⟩
      exact ⟨e, he, hlarge, c, hc, hbeyond⟩
    obtain ⟨data, hdata, hshows⟩ | ⟨e, he, rfl, hbeyond⟩ := mapM_cases heach
    · refine .inl ⟨data, ?_, hshows⟩
      simp only [chartFrom, if_true, hdata]
      rfl
    · refine .inr ⟨?_, rfl, hbeyond⟩
      simp only [chartFrom, if_true, he]
      rfl

/-- A chart with the years `ys` and one series per combination, each with one value per year. -/
structure Aligned (combos : List Combination) (ratio : Bool) (ys : List Int) (totals : YearCounts)
    (es : List Event) (chart : SeriesChart) : Prop where
  years : chart.years = ys
  length_series : chart.series.length = combos.length
  series : ∀ (i : Nat) c, combos[i]? = some c → ∃ s, chart.series[i]? = some s ∧
    s.name = c.label ∧ s.filters = c.filters ∧ s.data.length = ys.length ∧
    ∀ (j : Nat) y, ys[j]? = some y → ∃ n d, s.data[j]? = some d ∧ CountShown es i y n ∧
      Point ratio (countOf totals y) n d

/-- When all queries have ended there is a chart, or a share is beyond all doubles. -/
theorem History.aligned (h : History year base ys combos k es s) (hc : s.Complete) (ratio : Bool)
    (totals : YearCounts) :
    (∃ chart, chartFrom combos ratio ys totals (s.phases.map countsOf) = .ok chart ∧
      Aligned combos ratio ys totals es chart) ∨
      (chartFrom combos ratio ys totals (s.phases.map countsOf) =
          .error (.unreadable .quotientTooLarge) ∧
        ratio = true ∧ ∃ i y n, i < combos.length ∧ y ∈ ys ∧ CountShown es i y n ∧
          Beyond (countOf totals y) n) := by
  obtain ⟨data, hchart, hshows⟩ | ⟨hchart, hratio, c, hmem, y, hy, hbeyond⟩ :=
    chartFrom_cases combos ratio ys totals (s.phases.map countsOf)
  · refine .inl ⟨_, hchart, rfl, ?_, fun i c hi => ?_⟩
    · have hlength := hshows.length_eq
      rw [List.length_map, length_phases h] at hlength
      simp [← hlength]
    · obtain ⟨p, hp, -⟩ := h.countShown hc (List.getElem?_eq_some_iff.1 hi).1 0
      have hcounts : (s.phases.map countsOf)[i]? = some (countsOf p) := by
        rw [List.getElem?_map, hp, Option.map_some]
      obtain ⟨d, hd, hrow⟩ := exists_getElem?_of_forall₂ hshows hcounts
      refine ⟨_, List.getElem?_zipWith_eq_some.2 ⟨c, d, hi, hd, rfl⟩, rfl, rfl, hrow.length_eq.symm,
        fun j y hj => ?_⟩
      obtain ⟨p', hp', hshown⟩ := h.countShown hc (List.getElem?_eq_some_iff.1 hi).1 y
      obtain rfl : p = p' := Option.some.inj (hp.symm.trans hp')
      obtain ⟨point, hpoint, hvalue⟩ := exists_getElem?_of_forall₂ hrow hj
      exact ⟨_, point, hpoint, hshown, hvalue⟩
  · obtain ⟨p, hpmem, rfl⟩ := List.mem_map.1 hmem
    obtain ⟨i, hi⟩ := List.mem_iff_getElem?.1 hpmem
    have hlt : i < combos.length := length_phases h ▸ (List.getElem?_eq_some_iff.1 hi).1
    obtain ⟨p', hp', hshown⟩ := h.countShown hc hlt y
    obtain rfl : p = p' := Option.some.inj (hi.symm.trans hp')
    exact .inr ⟨hchart, hratio, i, y, _, hlt, hy, hshown, hbeyond⟩

/-! ## All charts -/

/-- A chart that is made with `k` permits: the events of its queries, the statements before them, the
statements of the queries with their places, and the chart or the failure. -/
inductive Run (year : Int) (base : FilterSpec) (combos : List Combination) (years : List Int)
    (ratio : Bool) (k : Nat) (session : Session) :
    List Event → List Sql.Statement → List (Nat × Sql.Statement) → Except Failure SeriesChart → Prop where
  | failed {e : Failure} {after : Session}
      (h : (baseline years ratio).run.run session = (.error e, after)) :
    Run year base combos years ratio k session [] after.asked [] (.error e)
  | ended {ys : List Int} {totals : YearCounts} {mid : Session} {es : List Event} {s : Gathering}
      (h : (baseline years ratio).run.run session = (.ok (ys, totals), mid))
      (hs : History year base ys combos k es s) (hc : s.Complete) :
    Run year base combos years ratio k session es mid.asked s.asked
      (chartFrom combos ratio ys totals (s.phases.map countsOf))

/-- The queries one after the other. -/
theorem run_countsOverTime {years : List Int} {ratio : Bool} {session mid : Session}
    {totals : YearCounts} {os rest : List Outcome}
    (h : (baseline years ratio).run.run session = (.ok (ys, totals), mid))
    (hos : mid.outcomes = os ++ rest) (hl : os.length = combos.length) :
    (countsOverTime year combos years base ratio).run.run session =
      (chartFrom combos ratio ys totals (os.map yearCountsFrom), { mid with
        outcomes := rest, asked := mid.asked ++ combos.map (yearsStatement year base ys) }) := by
  have hqueries : (combos.mapM (countYears year base ys)).run.run mid =
      (.ok (os.map yearCountsFrom), { mid with
        outcomes := rest, asked := mid.asked ++ combos.map (yearsStatement year base ys) }) :=
    run_mapM_attempt (yearsStatement year base ys) yearCountsFrom hos hl
  rw [countsOverTime_eq, run_bind_of_ok h, run_bind_of_ok hqueries]
  cases chartFrom combos ratio ys totals (os.map yearCountsFrom) <;> rfl

/-- What a chart that is made shows, and why there is none. -/
structure Made (year : Int) (base : FilterSpec) (combos : List Combination) (years ys : List Int)
    (ratio : Bool) (session : Session) (es : List Event) (before : List Sql.Statement)
    (asked : List (Nat × Sql.Statement)) (result : Except Failure SeriesChart) : Prop where
  chart : ∀ chart, result = .ok chart → ∃ totals,
    (ratio = true → TotalsOf session ys totals) ∧ Aligned combos ratio ys totals es chart
  /-- A chart of counts does not fail. One of shares fails with its totals, or where a share is beyond
  all doubles. -/
  failure : ∀ e, result = .error e → ratio = true ∧
    ((∃ cache, session.totals.get session.now (totalsKey ys) = (none, cache) ∧ NoTotals session e) ∨
      (e = .unreadable .quotientTooLarge ∧ ∃ totals i y n, TotalsOf session ys totals ∧
        i < combos.length ∧ y ∈ ys ∧ CountShown es i y n ∧ Beyond (countOf totals y) n))
  /-- Totals that are not kept and end in a fault of the store: no query follows them. -/
  unavailable : ratio = true → ∀ cache f,
    session.totals.get session.now (totalsKey ys) = (none, cache) →
    nextOutcome session = .error f → ofStore f.kind = true →
    result = .error .unavailable ∧ before = session.asked ++ [.countByYear ys .always] ∧
      es = [] ∧ asked = []
  /-- An outcome is that of the combination's own statement, which is put once. -/
  own : ∀ i o, Event.finish i o ∈ es → ∃ c, combos[i]? = some c ∧
    asked.filter (fun entry => entry.1 = i) = [(i, yearsStatement year base ys c)]
  /-- Putting the statements one after the other gives the same chart to the same outcomes. -/
  in_order : ∀ totals mid os rest,
    (baseline years ratio).run.run session = (.ok (ys, totals), mid) →
    mid.outcomes = os ++ rest → os.length = combos.length →
    (∀ i o, os[i]? = some o → Event.finish i o ∈ es) →
    (countsOverTime year combos years base ratio).run.run session = (result, { mid with
      outcomes := rest, asked := mid.asked ++ combos.map (yearsStatement year base ys) })

variable {years : List Int} {ratio : Bool} {session mid : Session} {totals : YearCounts}

theorem made_of_failed {e : Failure} {after : Session} (hyears : years ≠ [])
    (h : (baseline years ratio).run.run session = (.error e, after)) :
    Made year base combos years (distinct years) ratio session [] after.asked [] (.error e) := by
  obtain ⟨totals, mid, hbase, -⟩ | ⟨e', after', cache, hbase, hratio, hget, hno, hasked⟩ :=
    run_baseline_cases hyears ratio session <;> rw [h] at hbase
  · cases hbase
  · obtain ⟨herror, rfl⟩ := Prod.mk.inj hbase
    obtain rfl := Except.error.inj herror
    constructor
    · intro chart hchart
      cases hchart
    · intro e' he
      obtain rfl := Except.error.inj he
      exact ⟨hratio, .inl ⟨cache, hget, hno⟩⟩
    · -- No totals were kept, so that the fault of the statement is what is reported.
      intro _ cache' f _ hnext hstore
      refine ⟨?_, hasked, rfl, rfl⟩
      cases hno with
      | fault hf =>
        rw [hnext] at hf
        obtain rfl := Except.error.inj hf
        rw [report, if_pos hstore]
      | unreadable ha =>
        rw [hnext] at ha
        cases ha
    · intro i o ho
      exact absurd ho List.not_mem_nil
    · intro totals mid os rest hok
      rw [h] at hok
      cases hok

theorem made_of_ended (hyears : years ≠ [])
    (h : (baseline years ratio).run.run session = (.ok (ys, totals), mid))
    (hs : History year base ys combos k es s) (hc : s.Complete) :
    Made year base combos years (distinct years) ratio session es mid.asked s.asked
      (chartFrom combos ratio ys totals (s.phases.map countsOf)) := by
  obtain ⟨totals', mid', hbase, htotals⟩ | ⟨e', after', cache, hbase, -⟩ :=
    run_baseline_cases hyears ratio session <;> rw [h] at hbase
  · obtain ⟨hresult, rfl⟩ := Prod.mk.inj hbase
    obtain ⟨rfl, rfl⟩ := Prod.mk.inj (Except.ok.inj hresult)
    constructor
    · intro chart hchart
      obtain ⟨chart', hchart', haligned⟩ | ⟨hlarge, -⟩ := hs.aligned hc ratio totals
      · rw [hchart'] at hchart
        obtain rfl := Except.ok.inj hchart
        exact ⟨totals, htotals, haligned⟩
      · rw [hlarge] at hchart
        cases hchart
    · intro e he
      obtain ⟨chart', hchart', -⟩ | ⟨hlarge, hratio, i, y, n, hbeyond⟩ := hs.aligned hc ratio totals
      · rw [hchart'] at he
        cases he
      · rw [hlarge] at he
        obtain rfl := Except.error.inj he
        exact ⟨hratio, .inr ⟨rfl, totals, i, y, n, htotals hratio, hbeyond⟩⟩
    · intro hratio cache f hget hnext _
      subst hratio
      obtain ⟨after, hrun, -⟩ := run_totals_asked (distinct_ne_nil hyears) (nodup_distinct years) hget
      rw [hnext] at hrun
      rw [run_baseline_shares hyears, hrun] at h
      cases h
    · exact fun i o ho => hs.askedBy_of_finish ho
    · intro totals' mid' os rest hok hos hl hfinish
      rw [h] at hok
      obtain ⟨hresult, rfl⟩ := Prod.mk.inj hok
      obtain ⟨-, rfl⟩ := Prod.mk.inj (Except.ok.inj hresult)
      have hphases : s.phases = os.map fun o => .ended (some o) := hs.inv.phases_eq hl hfinish
      rw [run_countsOverTime h hos hl, hphases, List.map_map]
      rfl
  · cases hbase

/-- The years of a chart are those that are asked for, each once, in the order of their first
occurrences. Whatever the order of rows and events, a chart has one series per combination, one value
per year, and each value is made of the count that the combination's own query gave for the year and
the total of the year. -/
theorem series_aligned (year : Int) (base : FilterSpec) (combos : List Combination)
    {years : List Int} (hyears : years ≠ []) (ratio : Bool) (k : Nat) (session : Session) :
    ((distinct years).Nodup ∧ (∀ y, y ∈ distinct years ↔ y ∈ years) ∧
      (distinct years).Pairwise fun a b => years.idxOf a < years.idxOf b) ∧
    (1 ≤ k → ∃ es before asked result,
      Run year base combos years ratio k session es before asked result) ∧
    ∀ es before asked result, Run year base combos years ratio k session es before asked result →
      Made year base combos years (distinct years) ratio session es before asked result := by
  refine ⟨⟨nodup_distinct years, fun _ => mem_distinct, pairwise_idxOf_distinct years⟩,
    fun hk => ?_, fun es before asked result hrun => ?_⟩
  · rcases hbase : (baseline years ratio).run.run session with ⟨e | ⟨ys, totals⟩, mid⟩
    · exact ⟨_, _, _, _, .failed hbase⟩
    · have hstart : History year base ys combos k [] (.start k combos.length) := .start
      obtain ⟨es, s, hs, hc⟩ := hstart.exists_complete hk
      exact ⟨_, _, _, _, .ended hbase hs hc⟩
  · cases hrun with
    | failed h => exact made_of_failed hyears h
    | ended h hs hc => exact made_of_ended hyears h hs hc

/-- Two queries may end in the order opposite to that of their combinations. -/
theorem history_opposite (year : Int) (base : FilterSpec) (ys : List Int) (c d : Combination)
    (o o' : Outcome) :
    History year base ys [c, d] 2
      [.acquire 0, .acquire 1, .put 1, .put 0, .finish 1 o', .finish 0 o]
      ⟨2, [.ended (some o), .ended (some o')],
        [(1, yearsStatement year base ys d), (0, yearsStatement year base ys c)]⟩ := by
  have hstart : History year base ys [c, d] 2 [] ⟨2, [.waiting, .waiting], []⟩ := .start
  have hadmitted : History year base ys [c, d] 2 [.acquire 0, .acquire 1]
      ⟨0, [.admitted, .admitted], []⟩ :=
    (hstart.step (.acquire (i := 0) rfl rfl)).step (.acquire (i := 1) rfl rfl)
  have hput : History year base ys [c, d] 2 [.acquire 0, .acquire 1, .put 1, .put 0]
      ⟨0, [.inFlight, .inFlight],
        [(1, yearsStatement year base ys d), (0, yearsStatement year base ys c)]⟩ :=
    (hadmitted.step (.put (i := 1) rfl rfl)).step (.put (i := 0) rfl rfl)
  exact (hput.step (.finish (i := 1) (o := o') rfl)).step (.finish (i := 0) (o := o) rfl)

/-- Shares of two combinations, of which the first ends in a timeout after the second has its rows.
The years are asked for in another order than they are answered, and one of them twice. -/
theorem series_aligned_opposite :
    let total : Answer := ⟨[[.int 2018, .int 4], [.int 2020, .int 0]], .null, []⟩
    let session : Session := ⟨[.ok total], [], .empty 256 3600, 0⟩
    let combos : List Combination := [⟨[("county", "X")]⟩, ⟨[("county", "Y")]⟩]
    let es : List Event := [.acquire 0, .acquire 1, .put 1, .put 0,
      .finish 1 (.ok ⟨[[.int 2018, .int 3]], .null, []⟩), .finish 0 (.error ⟨.timeout, ""⟩)]
    ∃ before asked result,
      Run 2024 .empty combos [2020, 2018, 2020] true 2 session es before asked result ∧
      Made 2024 .empty combos [2020, 2018, 2020] [2020, 2018] true session es before asked
        result := by
  intro total session combos es
  have hyears : ([2020, 2018, 2020] : List Int) ≠ [] := by decide
  obtain ⟨cache, hget⟩ : ∃ cache, session.totals.get session.now
      (totalsKey (distinct [2020, 2018, 2020])) = (none, cache) := ⟨_, rfl⟩
  obtain ⟨after, hrun, -⟩ := run_totals_asked (distinct_ne_nil hyears) (nodup_distinct _) hget
  have hbase := run_baseline_shares hyears session
  rw [hrun] at hbase
  have hmade := Run.ended hbase (history_opposite 2024 .empty [2020, 2018] ⟨[("county", "X")]⟩
    ⟨[("county", "Y")]⟩ (.error ⟨.timeout, ""⟩) (.ok ⟨[[.int 2018, .int 3]], .null, []⟩))
    (by simp [Gathering.Complete])
  exact ⟨_, _, _, hmade, (series_aligned 2024 .empty combos hyears true 2 session).2.2 _ _ _ _ hmade⟩

end OverTime

end Electorate.Chart
