import Electorate.Proofs.ConcurrentCounts
import Electorate.Proofs.DecimalText
import Electorate.Proofs.IntegerRange
import Electorate.Proofs.UnknownValues
import Electorate.Proofs.VoterFile
import Electorate.Proofs.YearCounts

/-!
# Voters by year

The database counts voters by year in one statement: it puts each voter beside the listed years that
are among the voter's own, and counts the pairs of each year. A filter asks for one year instead.

* `isAnyOf`: what `year = ANY (own)` says where the years of a voter are missing, or some of them.
* `VoterFile.joined`, `VoterFile.AnswersByYear`: the pairs and the rows that count them.
* `VoterFile.ofYear_joined`: of different years each one has the voters who took part in it, each of
  them once.
* `FilterSpec.selects_merge_electionYear`: the voters of a filter to which a year is added.
* `yearsAgree_of_answersByYear`: the count of a year is that of the filter with the year.
-/

namespace Electorate

open Electorate.Sql Electorate.Sql.Predicate Electorate.Store

/-! ## The join -/

/-- What `year = ANY (own)` says: nothing is known where the list is missing, or where the year is
not in it but some of its elements are missing. -/
def Sql.isAnyOf (year : Int) : Option (List (Option Int)) → Truth
  | none => .unknown
  | some own => .any (own.map (Truth.ofTest (· == year)))

theorem Sql.isAnyOf_eq_yes {year : Int} {own : Option (List (Option Int))} :
    isAnyOf year own = .yes ↔ ∃ years, own = some years ∧ some year ∈ years := by
  cases own with
  | none => simp [isAnyOf]
  | some years => simp [isAnyOf, Truth.any_eq_yes, Truth.ofTest_eq_yes]

/-- Of different values one is found once among those that pass a test, if it passes. -/
theorem filter_eq_of_nodup {l : List Int} (h : l.Nodup) {y : Int} (hy : y ∈ l) (test : Int → Bool) :
    l.filter (fun x => decide (x = y) && test x) = if test y then [y] else [] := by
  have hone : l.filter (fun x => decide (x = y)) = [y] := by
    rw [List.filter_eq, List.count_eq_one_of_mem h hy, List.replicate_one]
  simp only [Bool.and_comm]
  rw [← List.filter_filter, hone, List.filter_singleton, Bool.cond_eq_ite]

namespace VoterFile

variable (file : VoterFile) {years : List Int} {p : Predicate} {y : Int}

/-- The voters of whom a condition is true, each beside the years that are among its own. -/
def joined (years : List Int) (p : Predicate) : List (Voter × Int) :=
  ((file.voters.flatMap fun v => years.map fun year => (v, year)).filter fun pair =>
    isAnyOf pair.2 pair.1.electionYears = .yes).filter fun pair =>
      p.eval file.world pair.1 = .yes

/-- The voters who stand beside a year. -/
def ofYear (pairs : List (Voter × Int)) (year : Int) : List Voter :=
  (pairs.filter fun pair => pair.2 = year).map Prod.fst

/-- The answer to a statement that counts voters by year: a row for every year that a voter stands
beside, in any order. -/
def AnswersByYear : Statement → Answer → Prop
  | .countByYear years p, answer => ∃ groups : List (Int × Int),
    groups.Perm ((distinct ((file.joined years p).map Prod.snd)).map fun year =>
      (year, ((ofYear (file.joined years p) year).length : Int))) ∧
    answer.rows = groups.map fun group => [.int group.1, .int group.2]
  | _, _ => False

variable {file}

/-- Of different years each one has the voters who took part in it, in their order. -/
theorem ofYear_joined (hnodup : years.Nodup) (hy : y ∈ years) :
    ofYear (file.joined years p) y = file.voters.filter fun v =>
      isAnyOf y v.electionYears = .yes && p.eval file.world v = .yes := by
  unfold ofYear joined
  -- Each voter adds the pair of the year once or not at all, since the years differ.
  induction file.voters with
  | nil => rfl
  | cons v vs ih =>
    rw [List.flatMap_cons, List.filter_append, List.filter_append, List.filter_append,
      List.map_append, ih]
    simp only [List.filter_map, List.filter_filter, List.map_map, Function.comp_def]
    rw [filter_eq_of_nodup hnodup hy fun year =>
      decide (p.eval file.world v = .yes) && decide (isAnyOf year v.electionYears = .yes),
      List.filter_cons, Bool.and_comm]
    split <;> rfl

/-- The counts that are read of such an answer. A year that no voter stands beside counts zero. -/
theorem countOf_of_answersByYear {answer : Answer}
    (h : file.AnswersByYear (.countByYear years p) answer) :
    ∃ counts, Chart.readYearCounts answer.rows = .ok counts ∧
      ∀ y, (Chart.countOf counts y).getD 0 = (ofYear (file.joined years p) y).length := by
  obtain ⟨groups, hperm, hrows⟩ := h
  have hread : answer.rows.mapM Chart.readYearCount = .ok groups := by
    rw [hrows, List.mapM_map]
    exact List.mapM_pure.trans (congrArg Except.ok (List.map_id groups))
  obtain ⟨counts, hcounts, htallied⟩ := Chart.tallied_readYearCounts hread
  refine ⟨counts, hcounts, fun y => ?_⟩
  have hmem (year n : Int) : (year, n) ∈ groups ↔
      year ∈ (file.joined years p).map Prod.snd ∧
        n = (ofYear (file.joined years p) year).length := by
    rw [hperm.mem_iff, List.mem_map]
    constructor
    · rintro ⟨_, hyear, he⟩
      cases he
      exact ⟨mem_distinct.mp hyear, rfl⟩
    · rintro ⟨hyear, rfl⟩
      exact ⟨year, mem_distinct.mpr hyear, rfl⟩
  by_cases hy : y ∈ (file.joined years p).map Prod.snd
  · rw [(htallied y).of_row _ ((hmem y _).mpr ⟨hy, rfl⟩) fun m hm => ((hmem y m).mp hm).2]
    rfl
  · have hnone : ∀ e ∈ groups, e.1 ≠ y := by
      rintro ⟨year, n⟩ he rfl
      exact hy ((hmem year n).mp he).1
    have hempty : ofYear (file.joined years p) y = [] := by
      rw [ofYear, List.map_eq_nil_iff, List.filter_eq_nil_iff]
      intro pair hpair heq
      exact hy (List.mem_map.mpr ⟨pair, hpair, of_decide_eq_true heq⟩)
    rw [(htallied y).of_missing hnone, hempty]
    rfl

end VoterFile

/-! ## The filter of a year -/

namespace FilterSpec

variable {spec a b : FilterSpec} {name x : String} {d : Dimension} {w : World} {v : Voter}
  {current : Int}

/-- A filter gains the value of a name that it has not. -/
theorem gains_merge (hnew : spec.has name = false) (x : String) :
    Gains spec (spec.merge [(name, [x])]) name x where
  there := by simp [get?_merge, get?_eq_none_of_has hnew]
  others m hm := by
    rw [get?_merge]
    cases hg : spec.get? m with
    | none => simp [lookup_cons_eq, hm]
    | some values => simp [lookup_cons_eq, hm, ne_nil_of_get? hg]

/-- A value that its dimension recognises, of a dimension that the filter has not, is one more
condition. Ages are left out, since a range of them takes the place of single ages. -/
theorem holds_iff_of_gains_known (h : Gains a b d.name x) (hd : d ∈ Dimension.lenient)
    (hages : d ≠ .ageRange) (hnew : a.has d.name = false) (hx : d.Recognises x) :
    b.Holds w v current ↔ a.Holds w v current ∧ d.Holds w v current a [x] := by
  have hnone := get?_eq_none_of_has hnew
  have hthere : b.get? d.name = some [x] := by rw [h.there, hnone]; rfl
  have hC : d.Constrains b [x] := (Dimension.constrains_singleton_iff hd).mpr hx
  have hsat := h.asksSatOut_eq hd
  have hrange := h.has_eq (Ne.symm hages)
  constructor
  · intro hb
    refine ⟨fun e us hg hCe => ?_, (Dimension.holds_congr hsat d).mp (hb d [x] hthere hC)⟩
    have he : e ≠ d := by
      rintro rfl
      rw [hnone] at hg
      cases hg
    exact (Dimension.holds_congr hsat e).mp
      (hb e us ((h.get?_eq he).trans hg) ((Dimension.constrains_congr hrange e).mpr hCe))
  · rintro ⟨ha, hdx⟩ e us hg hCe
    by_cases he : e = d
    · subst he
      obtain rfl := Option.some.inj (hthere.symm.trans hg)
      exact (Dimension.holds_congr hsat e).mpr hdx
    · exact (Dimension.holds_congr hsat e).mpr
        (ha e us ((h.get?_eq he).symm.trans hg) ((Dimension.constrains_congr hrange e).mp hCe))

/-- A filter to which a year is added selects those of its voters who took part in that year. -/
theorem selects_merge_electionYear (hid : spec.exactId? = none)
    (hnew : spec.has Dimension.electionYear.name = false) {y : Int}
    (hx : Number.readInteger? x = some y) :
    Selects w v ((spec.merge [(Dimension.electionYear.name, [x])]).predicate current) ↔
      isAnyOf y v.electionYears = .yes ∧ Selects w v (spec.predicate current) := by
  have hgains := gains_merge hnew x
  have hknown : Dimension.electionYear.Recognises x := Option.isSome_of_eq_some hx
  have hyear : Dimension.electionYear.Holds w v current spec [x] ↔
      isAnyOf y v.electionYears = .yes := by
    rw [isAnyOf_eq_yes]
    simp [Dimension.Holds, hx]
  rw [selects_predicate_iff ((hgains.exactId?_eq (by decide)).trans hid),
    selects_predicate_iff hid,
    holds_iff_of_gains_known hgains (by decide) (by decide) hnew hknown, hyear, and_comm]

end FilterSpec

/-! ## Counts by year and counts of filters -/

/-- The count of a year among counts by year is the count of the filter that asks for that year, and
the voters who are counted are the voters of that filter, each of them once. -/
structure YearsAgree (file : VoterFile) (spec : FilterSpec) (current : Int) (asked : List Int)
    (counts : YearCounts) (y : Int) : Prop where
  count_eq : ∀ send total,
    file.Answers send (.count ((spec.merge [(Dimension.electionYear.name, [toString y])]).predicate
      current)) total →
    (Chart.countOf counts y).getD 0 = Chart.countFrom (.ok total)
  voters_eq : VoterFile.ofYear (file.joined asked (spec.predicate current)) y =
    file.selected ((spec.merge [(Dimension.electionYear.name, [toString y])]).predicate current)
  once : (VoterFile.ofYear (file.joined asked (spec.predicate current)) y).Nodup

/-- Counts by year, of a filter that asks for no year itself, are the counts of the filter with each
of the years. -/
theorem yearsAgree_of_answersByYear {spec : FilterSpec} (hid : spec.exactId? = none)
    (hnew : spec.has Dimension.electionYear.name = false) {years : List Int} (hne : years ≠ [])
    (hfit : ∀ y ∈ years, FitsInteger y) (current : Int) :
    ∃ asked, Chart.uniqueYears years = .ok asked ∧ ∀ (file : VoterFile) (answer : Answer),
      file.AnswersByYear (.countByYear asked (spec.predicate current)) answer →
      ∃ counts, Chart.readYearCounts answer.rows = .ok counts ∧
        ∀ y ∈ years, YearsAgree file spec current asked counts y := by
  refine ⟨distinct years, Chart.uniqueYears_of_ne_nil hne, fun file answer hanswer => ?_⟩
  obtain ⟨counts, hcounts, hcount⟩ := VoterFile.countOf_of_answersByYear hanswer
  refine ⟨counts, hcounts, fun y hy => ?_⟩
  have hread : Number.readInteger? (toString y) = some y := by
    obtain ⟨hlow, hhigh⟩ := hfit y hy
    refine Number.readInteger?_toString ?_
    -- Thirty-two bits are ten digits at most.
    calc y.natAbs < 10 ^ 10 := by omega
      _ ≤ 10 ^ Number.maxIntegerDigits := Nat.pow_le_pow_right (by decide) (by decide)
  have hvoters : VoterFile.ofYear (file.joined (distinct years) (spec.predicate current)) y =
      file.selected ((spec.merge [(Dimension.electionYear.name, [toString y])]).predicate
        current) := by
    rw [VoterFile.ofYear_joined (nodup_distinct years) (mem_distinct.mpr hy)]
    refine List.filter_congr fun v _ => ?_
    rw [Bool.eq_iff_iff, Bool.and_eq_true, decide_eq_true_iff, decide_eq_true_iff,
      decide_eq_true_iff]
    exact (FilterSpec.selects_merge_electionYear hid hnew hread).symm
  refine ⟨fun send total htotal => ?_, hvoters, ?_⟩
  · rw [hcount y, hvoters, Chart.countFrom_of_int htotal]
  · rw [hvoters]
    exact VoterFile.selected_nodup _

/-- A voter with a year that is there twice and one that is missing, and a voter without years. -/
def repeatedYears : VoterFile where
  world := default
  collation := .byCodePoint
  voters := [
    { (default : Voter) with
      text := fun
        | .registrationNumber => some "1"
        | _ => none
      electionYears := some [some 2020, none, some 2020] },
    { (default : Voter) with
      text := fun
        | .registrationNumber => some "2"
        | _ => none }]
  numbers_nodup := by decide

/-- The voter is counted once in 2020, and no voter is counted in 2022. -/
theorem yearsAgree_repeatedYears :
    ∃ counts, Chart.readYearCounts [[.int 2020, .int 1]] = .ok counts ∧
      YearsAgree repeatedYears .empty 2024 [2020, 2022] counts 2020 ∧
      YearsAgree repeatedYears .empty 2024 [2020, 2022] counts 2022 := by
  have hid : FilterSpec.empty.exactId? = none := by decide
  have hfit : ∀ y ∈ ([2020, 2022, 2020] : List Int), FitsInteger y := by simp [FitsInteger]
  obtain ⟨asked, hasked, hagree⟩ :=
    yearsAgree_of_answersByYear hid (by decide) (List.cons_ne_nil _ _) hfit 2024
  obtain rfl : [2020, 2022] = asked := Except.ok.inj hasked
  obtain ⟨counts, hcounts, hall⟩ := hagree repeatedYears
    { Answer.nothing with rows := [[.int 2020, .int 1]] } ⟨[(2020, 1)], by decide, rfl⟩
  exact ⟨counts, hcounts, hall 2020 (by simp), hall 2022 (by simp)⟩

end Electorate
