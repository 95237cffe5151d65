import Electorate.Proofs.Entries
import Electorate.Proofs.StoreFaults

/-!
# Counts of years

An answer has one row per year in some order. The counts that are read from it do not depend on the
order.

* `countOf_foldl_put`: of several rows of a year the last one counts.
* `Tallied`: what rows say about a year.
* `tallied_readYearCounts`: the counts that are read say the same.
* `run_countTotals`, `run_totals_asked`: totals that are not kept are asked for with one statement.
-/

namespace Electorate.Chart

open Electorate.Store

/-! ## Rows -/

/-- Of several rows of a year the last one counts. -/
theorem countOf_foldl_put (pairs : List (Int × Int)) (year : Int) :
    countOf (pairs.foldl (fun counts e => Entries.put e.1 e.2 counts) []) year =
      countOf pairs.reverse year := by
  rw [countOf, Entries.lookup_foldl_put]
  exact Option.or_none

/-- What rows say about a year, whatever their order. -/
structure Tallied (pairs : List (Int × Int)) (year : Int) (count : Option Int) : Prop where
  of_missing : (∀ e ∈ pairs, e.1 ≠ year) → count = none
  of_row : ∀ n, (year, n) ∈ pairs → (∀ m, (year, m) ∈ pairs → m = n) → count = some n
  /-- Rows of one year that differ, which no grouped answer has: the last one counts. -/
  of_last : ∀ before n after, pairs = before ++ (year, n) :: after →
    (∀ e ∈ after, e.1 ≠ year) → count = some n

theorem mem_of_countOf {counts : YearCounts} {year n : Int} (h : countOf counts year = some n) :
    (year, n) ∈ counts := by
  obtain ⟨before, after, rfl, -⟩ := List.lookup_eq_some_iff.1 h
  simp

theorem countOf_eq_none {counts : YearCounts} {year : Int} (h : ∀ e ∈ counts, e.1 ≠ year) :
    countOf counts year = none :=
  List.lookup_eq_none_iff.2 fun e he => bne_iff_ne.2 (h e he).symm

theorem exists_countOf_of_mem {counts : YearCounts} {year n : Int} (h : (year, n) ∈ counts) :
    ∃ m, countOf counts year = some m :=
  Option.isSome_iff_exists.1 (List.lookup_isSome_iff.2 ⟨(year, n), h, beq_self_eq_true year⟩)

/-- The counts that are read from rows say of a year what the rows say. -/
theorem tallied_readYearCounts {rows : List Row} {pairs : List (Int × Int)}
    (h : rows.mapM readYearCount = .ok pairs) :
    ∃ counts, readYearCounts rows = .ok counts ∧ ∀ year, Tallied pairs year (countOf counts year) := by
  refine ⟨pairs.foldl (fun counts e => Entries.put e.1 e.2 counts) [], ?_, fun year => ?_⟩
  · rw [readYearCounts, h]
    rfl
  · rw [countOf_foldl_put]
    constructor
    · exact fun hmissing => countOf_eq_none fun e he => hmissing e (List.mem_reverse.1 he)
    · intro n hn hall
      obtain ⟨m, hm⟩ := exists_countOf_of_mem (List.mem_reverse.2 hn)
      rw [hm, hall m (List.mem_reverse.1 (mem_of_countOf hm))]
    · rintro before n after rfl hafter
      have hnone : countOf after.reverse year = none :=
        countOf_eq_none fun e he => hafter e (List.mem_reverse.1 he)
      unfold countOf at hnone ⊢
      rw [List.reverse_append, List.reverse_cons, List.append_assoc, List.lookup_append, hnone]
      exact List.lookup_cons_self

/-! ## Totals -/

/-- The totals that the outcome of their statement gives. -/
def totalsFrom (o : Outcome) : Except Failure YearCounts := do
  let answer ← o.mapError (report ofStore)
  (readYearCounts answer.rows).mapError .unreadable

variable {years : List Int}

theorem uniqueYears_of_ne_nil (h : years ≠ []) : uniqueYears years = .ok (distinct years) := by
  rw [uniqueYears, if_neg (by simpa using h)]

/-- The totals are asked for with one statement. -/
theorem run_countTotals (hne : years ≠ []) (hnodup : years.Nodup) (session : Session) :
    (countTotals years).run.run session =
      (totalsFrom (nextOutcome session), session.afterPut (.countByYear years .always)) := by
  have hask := run_askGuarded ofStore (.countByYear years .always) session
  rw [countTotals, uniqueYears_of_ne_nil hne, distinct_eq_self hnodup]
  refine (run_bind_of_ok (a := years) rfl).trans ?_
  cases hnext : nextOutcome session with
  | error f =>
    rw [hnext] at hask
    exact run_bind_of_error hask
  | ok answer =>
    rw [hnext] at hask
    rw [run_bind_of_ok hask]
    show read (readYearCounts answer.rows) _ = ((readYearCounts answer.rows).mapError .unreadable, _)
    cases readYearCounts answer.rows <;> rfl

/-- Totals that are not kept are asked for. -/
theorem run_totals_asked (hne : years ≠ []) (hnodup : years.Nodup) {session : Session}
    {cache : ResultCache YearCounts}
    (hget : session.totals.get session.now (totalsKey years) = (none, cache)) :
    ∃ after, (totals years).run.run session = (totalsFrom (nextOutcome session), after) ∧
      after.asked = session.asked ++ [.countByYear years .always] := by
  have hcount := run_countTotals hne hnodup { session with totals := cache }
  have hnext : nextOutcome { session with totals := cache } = nextOutcome session := rfl
  rw [hnext] at hcount
  rw [run_totals_of_none hget, freshTotals]
  cases hfrom : totalsFrom (nextOutcome session) with
  | error e =>
    rw [hfrom] at hcount
    exact ⟨_, run_bind_of_error hcount, rfl⟩
  | ok counts =>
    rw [hfrom] at hcount
    exact ⟨_, (run_bind_of_ok hcount).trans rfl, rfl⟩

end Electorate.Chart
