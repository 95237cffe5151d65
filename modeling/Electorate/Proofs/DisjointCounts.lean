import Electorate.Proofs.BracketTables
import Electorate.Proofs.ConcurrentCounts
import Electorate.Proofs.VoterFile
import Electorate.Proofs.Erasure
import Electorate.Proofs.Extraction
import Electorate.Proofs.RegistrationNumber
import Mathlib.Data.List.Pairwise

/-!
# Combinations that share no voter

Which combinations of a chart count the same voters, where each crossed dimension reads a single
column of a voter.

* `Dimension.compared_eq_of_holds`, `Dimension.holds_congr_compared`: the values of a column that
  hold of one voter are compared alike, and values that are compared alike hold of the same voters.
* `Combination.Alike`: two combinations whose values are compared alike.
* `FilterSpec.SpelledOnce`: no two values of a dimension are spellings of one another. A request may
  send such spellings, since a chart keeps the case of its labels.
* `Chart.CountsApart`, `Chart.countsApart_of_ofParams`: combinations select a common voter only if
  they are alike, and then they select the same voters. Where values are spelled once, each voter is
  counted at most once.
-/

namespace Electorate

open Electorate.Sql Electorate.Sql.Predicate Electorate.Store

/-! ## Values of a column -/

/-- An age range is known by its text without the blanks around it. -/
theorem findAgeBucket?_eq_some {x : String} {b : AgeBucket} (h : findAgeBucket? x = some b) :
    b ∈ ageBuckets ∧ b.key = Text.strip x :=
  ⟨List.mem_of_find?_eq_some h, by simpa using List.find?_some h⟩

theorem Voter.hasFolded_singleton {v : Voter} {w : World} {c : TextColumn} {x : String} :
    v.HasFolded w c [x] ↔ ∃ s, v.text c = some s ∧ w.upper s = Text.upper x := by
  simp [HasFolded]

theorem Voter.hasText_singleton {v : Voter} {c : TextColumn} {x : String} :
    v.HasText c [x] ↔ v.text c = some x := by
  simp [HasText]

namespace Dimension

/-- The dimension is crossed by charts and reads a single column of a voter. -/
def isColumn : Dimension → Bool
  | county | congressionalDistrict | stateSenateDistrict | stateHouseDistrict | status
  | statusReason | gender | race | ageRange => true
  | _ => false

variable {d : Dimension} {w : World} {v : Voter} {year : Int} {spec a b : FilterSpec} {x y : String}

/-- The values of a column that hold of one voter are compared alike. -/
theorem compared_eq_of_holds (hd : d.isColumn = true) (hx : d.Holds w v year a [x])
    (hy : d.Holds w v year b [y]) : d.compared x = d.compared y := by
  have hfolded {c : TextColumn} {s t : String} (hs : v.HasFolded w c [s])
      (ht : v.HasFolded w c [t]) : Text.upper s = Text.upper t := by
    obtain ⟨u, hu, hs⟩ := Voter.hasFolded_singleton.mp hs
    obtain ⟨u', hu', ht⟩ := Voter.hasFolded_singleton.mp ht
    obtain rfl : u = u' := Option.some.inj (hu.symm.trans hu')
    exact hs.symm.trans ht
  have htext {c : TextColumn} {s t : String} (hs : v.HasText c [s]) (ht : v.HasText c [t]) :
      s = t :=
    Option.some.inj ((Voter.hasText_singleton.mp hs).symm.trans (Voter.hasText_singleton.mp ht))
  cases d
  case county | status | statusReason | gender => exact hfolded hx hy
  case race => exact hfolded hx hy
  case congressionalDistrict | stateSenateDistrict | stateHouseDistrict => exact htext hx hy
  case ageRange =>
    obtain ⟨_, hx', p, hp, born, hborn, hcp⟩ := hx
    obtain ⟨_, hy', q, hq, born', hborn', hcq⟩ := hy
    obtain rfl := List.mem_singleton.mp hx'
    obtain rfl := List.mem_singleton.mp hy'
    obtain rfl : born = born' := Option.some.inj (hborn.symm.trans hborn')
    obtain ⟨hpm, hpk⟩ := findAgeBucket?_eq_some hp
    obtain ⟨hqm, hqk⟩ := findAgeBucket?_eq_some hq
    show Text.strip _ = Text.strip _
    rw [← hpk, ← hqk, eq_of_apart ageBuckets_apart hpm hqm hcp hcq]
  all_goals cases hd

/-- Values of a column that are compared alike ask for the same voters. -/
theorem holds_congr_compared (hd : d.isColumn = true) (h : d.compared x = d.compared y) :
    d.Holds w v year spec [x] ↔ d.Holds w v year spec [y] := by
  have hfolded {c : TextColumn} {s t : String} (hst : Text.upper s = Text.upper t) :
      v.HasFolded w c [s] ↔ v.HasFolded w c [t] := by
    rw [Voter.hasFolded_singleton, Voter.hasFolded_singleton, hst]
  cases d
  case county | status | statusReason | gender => exact hfolded h
  case race => exact hfolded h
  case congressionalDistrict | stateSenateDistrict | stateHouseDistrict =>
    obtain rfl : x = y := h
    exact Iff.rfl
  case ageRange =>
    have hbucket : findAgeBucket? x = findAgeBucket? y := by
      unfold findAgeBucket?
      rw [show Text.strip x = Text.strip y from h]
    simp only [Holds, List.mem_singleton, exists_eq_left, hbucket]
  all_goals cases hd

end Dimension

/-! ## Columns that are crossed -/

/-- Two combinations whose values of each dimension are compared alike. -/
def Combination.Alike (c c' : Combination) : Prop :=
  ∀ (d : Dimension) x y, (d.name, x) ∈ c.assignments → (d.name, y) ∈ c'.assignments →
    d.compared x = d.compared y

namespace FilterSpec

/-- No two values of a dimension that is kept in upper case are spellings of one another. -/
def SpelledOnce (spec : FilterSpec) : Prop :=
  ∀ (d : Dimension) values, d.foldsCase = true → d.name ∈ Dimension.combinable →
    spec.get? d.name = some values → (values.map d.compared).Nodup

/-- The crossed dimensions are single columns of a voter, and every age range is a known one. -/
structure CrossesColumns (spec : FilterSpec) : Prop where
  isColumn : ∀ d : Dimension, d.name ∈ Dimension.combinable → spec.has d.name = true →
    d.isColumn = true
  ages : ∀ values, spec.get? Dimension.ageRange.name = some values →
    ∀ x ∈ values, (findAgeBucket? x).isSome

variable {spec : FilterSpec} {raiseCase : Bool}

/-- Districts and age ranges are compared as they are sent, so that no two are compared alike. -/
theorem nodup_compared {params : List (String × String)} {allowed ignored : List String}
    (h : ofParams params allowed ignored raiseCase = .ok spec) (hc : CrossesColumns spec)
    (hs : SpelledOnce spec) {d : Dimension} {values : List String}
    (hd : d.name ∈ Dimension.combinable) (hg : spec.get? d.name = some values) :
    (values.map d.compared).Nodup := by
  by_cases hfold : d.foldsCase = true
  · exact hs d values hfold hd hg
  · have hsame : ∀ x ∈ values, d.compared x = x := by
      intro x hx
      have hcolumn := hc.isColumn d hd (has_iff.mpr ⟨values, hg⟩)
      cases d
      case ageRange =>
        obtain ⟨p, -, -, hnormal⟩ := exists_param_of_get? h hg hx
        obtain rfl := normalizeValue_eq_strip (d := .ageRange) rfl (by decide) hnormal
        exact Text.strip_strip p.2
      case congressionalDistrict | stateSenateDistrict | stateHouseDistrict => rfl
      all_goals first | exact absurd rfl hfold | cases hcolumn
    have hmap : values.map d.compared = values := by
      rw [List.map_congr_left hsame, List.map_id']
    rw [hmap]
    exact ((groups_ofParams h).proper (not_refused_of_ofParams h)).nodup _ (get?_eq_some_iff.mp hg)

end FilterSpec

/-! ## Combinations -/

namespace Chart

open FilterSpec

section Rows

variable {spec : FilterSpec} {year : Int} {w : World} {v : Voter} {d : Dimension} {x : String}
  {row row' : List (String × String)}

/-- The filter of a combination selects the chosen value alone, which is one of the whole filter. -/
theorem get?_of_mem_row (hrow : row ∈ choices (spec.crossed Dimension.combinable))
    (hx : (d.name, x) ∈ row) :
    d.name ∈ Dimension.combinable ∧ (∃ values, spec.get? d.name = some values ∧ x ∈ values) ∧
      (combinationSpec (spec.without Dimension.combinable) ⟨row⟩).get? d.name = some [x] := by
  have hlookup := (lookup_eq_some_iff (nodup_names_of_mem_choices hrow)).mpr hx
  have hl := lookup_of_mem_choices hrow d.name
  rw [lookup_crossed, hlookup] at hl
  obtain ⟨-, hnone⟩ | ⟨values, x', hg, hx', hmem⟩ := hl
  · cases hnone
  · cases hx'
    split at hg
    · next hd =>
      refine ⟨hd, ⟨values, hg, hmem⟩, ?_⟩
      rw [get?_combinationSpec hrow, if_pos hd, hlookup]
      rfl
    · cases hg

/-- A row of a combination has each of the chosen values. -/
theorem holds_of_mem_row (hc : CrossesColumns spec)
    (hrow : row ∈ choices (spec.crossed Dimension.combinable)) (hx : (d.name, x) ∈ row)
    (h : (combinationSpec (spec.without Dimension.combinable) ⟨row⟩).Holds w v year) :
    d.isColumn = true ∧
      d.Holds w v year (combinationSpec (spec.without Dimension.combinable) ⟨row⟩) [x] := by
  obtain ⟨hd, ⟨values, hg, hmem⟩, hget⟩ := get?_of_mem_row hrow hx
  have hage : d = .ageRange → (findAgeBucket? x).isSome := by
    rintro rfl
    exact hc.ages values hg x hmem
  exact ⟨hc.isColumn d hd (has_iff.mpr ⟨values, hg⟩),
    h d [x] hget (Dimension.constrains_singleton hd hage)⟩

/-- Combinations that hold of one voter are alike. -/
theorem alike_of_holds (hc : CrossesColumns spec)
    (hrow : row ∈ choices (spec.crossed Dimension.combinable))
    (hrow' : row' ∈ choices (spec.crossed Dimension.combinable))
    (h : (combinationSpec (spec.without Dimension.combinable) ⟨row⟩).Holds w v year)
    (h' : (combinationSpec (spec.without Dimension.combinable) ⟨row'⟩).Holds w v year) :
    Combination.Alike ⟨row⟩ ⟨row'⟩ := by
  intro d x y hx hy
  obtain ⟨hd, hxv⟩ := holds_of_mem_row hc hrow hx h
  obtain ⟨-, hyv⟩ := holds_of_mem_row hc hrow' hy h'
  exact Dimension.compared_eq_of_holds hd hxv hyv

/-- A combination holds of the voters of which one that is alike holds. -/
theorem holds_of_alike (hc : CrossesColumns spec)
    (hrow : row ∈ choices (spec.crossed Dimension.combinable))
    (hrow' : row' ∈ choices (spec.crossed Dimension.combinable))
    (halike : Combination.Alike ⟨row⟩ ⟨row'⟩)
    (h : (combinationSpec (spec.without Dimension.combinable) ⟨row⟩).Holds w v year) :
    (combinationSpec (spec.without Dimension.combinable) ⟨row'⟩).Holds w v year := by
  intro d values hg hC
  have hsat := (asksSatOut_combinationSpec hrow).trans (asksSatOut_combinationSpec hrow').symm
  rw [← Dimension.holds_congr hsat]
  by_cases hd : d.name ∈ Dimension.combinable
  · rw [get?_combinationSpec hrow', if_pos hd] at hg
    obtain ⟨y, hlookup, rfl⟩ := Option.map_eq_some_iff.mp hg
    have hy := (lookup_eq_some_iff (nodup_names_of_mem_choices hrow')).mp hlookup
    have hname : d.name ∈ row.map Prod.fst := by
      rw [map_fst_of_mem_choices hrow, ← map_fst_of_mem_choices hrow']
      exact List.mem_map_of_mem hy
    obtain ⟨⟨_, x⟩, hx, rfl⟩ := List.mem_map.mp hname
    obtain ⟨hcolumn, hxv⟩ := holds_of_mem_row hc hrow hx h
    exact (Dimension.holds_congr_compared hcolumn (halike d x y hx hy)).mp hxv
  · rw [get?_combinationSpec hrow', if_neg hd] at hg
    have hages :=
      (has_ageRange_combinationSpec hrow).trans (has_ageRange_combinationSpec hrow').symm
    refine h d values ?_ ((Dimension.constrains_congr hages d).mpr hC)
    rw [get?_combinationSpec hrow, if_neg hd, hg]

end Rows

/-! ## Sums of counts -/

theorem countP_or_of_disjoint {p q : α → Bool} {l : List α}
    (h : ∀ a ∈ l, ¬(p a = true ∧ q a = true)) :
    l.countP (fun a => p a || q a) = l.countP p + l.countP q := by
  induction l with
  | nil => rfl
  | cons a l ih =>
    have ha := h a List.mem_cons_self
    have hrest := ih fun b hb => h b (List.mem_cons_of_mem _ hb)
    simp only [List.countP_cons, hrest, Bool.or_eq_true]
    by_cases hp : p a = true
    · have hq : ¬q a = true := fun hq => ha ⟨hp, hq⟩
      simp [hp, hq]
      omega
    · by_cases hq : q a = true
      · simp [hp, hq]
        omega
      · simp [hp, hq]

/-- What tests count that no element passes two of, is counted by all of them together. -/
theorem sum_countP_of_disjoint {l : List α} {test : β → α → Bool} {bs : List β}
    (h : bs.Pairwise fun b b' => ∀ a ∈ l, ¬(test b a = true ∧ test b' a = true)) :
    (bs.map fun b => l.countP (test b)).sum = l.countP fun a => bs.any fun b => test b a := by
  induction bs with
  | nil => simp
  | cons b bs ih =>
    obtain ⟨hb, hbs⟩ := List.pairwise_cons.mp h
    have hapart : ∀ a ∈ l, ¬(test b a = true ∧ (bs.any fun b' => test b' a) = true) := by
      rintro a ha ⟨hp, hany⟩
      obtain ⟨b', hb', hq⟩ := List.any_eq_true.mp hany
      exact hb b' hb' a ha ⟨hp, hq⟩
    rw [List.map_cons, List.sum_cons, ih hbs, ← countP_or_of_disjoint hapart]
    rfl

theorem foldr_add_natCast (n : β → Nat) (bs : List β) :
    (bs.map fun b => (n b : Int)).foldr (fun m k : Int => m + k) 0 = ((bs.map n).sum : Nat) := by
  induction bs with
  | nil => rfl
  | cons b bs ih =>
    rw [List.map_cons, List.foldr_cons, ih, List.map_cons, List.sum_cons, Int.natCast_add]

/-! ## Charts -/

/-- Whether a combination of a chart selects a voter. -/
def countsVoter (year : Int) (spec : FilterSpec) (w : World) (c : Combination) (v : Voter) : Bool :=
  (combinationPredicate year (spec.without Dimension.combinable) c).eval w v = .yes

/-- Combinations of a chart select a common voter only if they are alike, and then they select the
same voters. If no two values are spellings of one another, no voter is selected twice, and the
total of the chart is the number of voters that some combination selects. -/
structure CountsApart (spec : FilterSpec) (year : Int) (combos : List Combination) : Prop where
  alike_of_common : ∀ c ∈ combos, ∀ c' ∈ combos, ∀ w v, countsVoter year spec w c v = true →
    countsVoter year spec w c' v = true → c.Alike c'
  same_of_alike : ∀ c ∈ combos, ∀ c' ∈ combos, c.Alike c' → ∀ w v,
    countsVoter year spec w c v = countsVoter year spec w c' v
  disjoint : spec.SpelledOnce → combos.Pairwise fun c c' => ∀ w v,
    ¬(countsVoter year spec w c v = true ∧ countsVoter year spec w c' v = true)
  total : spec.SpelledOnce → ∀ (file : VoterFile) send (session : Session) answers rest,
    session.outcomes = answers.map Except.ok ++ rest →
    List.Forall₂ (fun c a => file.Answers send
      (countStatement year (spec.without Dimension.combinable) c) a) combos answers →
    ∃ shown after,
      (combinationCounts year combos (spec.without Dimension.combinable) true).run.run session =
        (.ok shown, after) ∧
      shown.total = some ((file.voters.countP fun v =>
        combos.any fun c => countsVoter year spec file.world c v : Nat) : Int)

section Combos

variable {spec : FilterSpec} {year : Int} {combos : List Combination}

theorem countsVoter_iff_holds (hid : spec.exactId? = none) {w : World} {v : Voter}
    {row : List (String × String)} (hrow : row ∈ choices (spec.crossed Dimension.combinable)) :
    countsVoter year spec w ⟨row⟩ v = true ↔
      (combinationSpec (spec.without Dimension.combinable) ⟨row⟩).Holds w v year := by
  rw [countsVoter, decide_eq_true_iff]
  exact selects_predicate_iff ((exactId?_combinationSpec hrow).trans hid)

/-- The counts that answer the statements of a chart. -/
theorem counts_of_answers {file : VoterFile} {send : Voter → VoterRow} {answers : List Answer}
    (h : List.Forall₂ (fun c a => file.Answers send
      (countStatement year (spec.without Dimension.combinable) c) a) combos answers) :
    (answers.map Except.ok).map countFrom =
      combos.map fun c =>
        ((file.voters.countP (countsVoter year spec file.world c) : Nat) : Int) := by
  induction h with
  | nil => rfl
  | cons ha _ ih =>
    rw [List.map_cons, List.map_cons, List.map_cons, ih, countFrom_of_int ha]
    congr 1
    rw [List.countP_eq_length_filter]
    rfl

theorem total_of_disjoint (h : combos.Pairwise fun c c' => ∀ w v,
      ¬(countsVoter year spec w c v = true ∧ countsVoter year spec w c' v = true))
    {file : VoterFile} {send : Voter → VoterRow} {session : Session} {answers : List Answer}
    {rest : List Outcome} (houtcomes : session.outcomes = answers.map Except.ok ++ rest)
    (hanswers : List.Forall₂ (fun c a => file.Answers send
      (countStatement year (spec.without Dimension.combinable) c) a) combos answers) :
    ∃ shown after,
      (combinationCounts year combos (spec.without Dimension.combinable) true).run.run session =
        (.ok shown, after) ∧
      shown.total = some ((file.voters.countP fun v =>
        combos.any fun c => countsVoter year spec file.world c v : Nat) : Int) := by
  have hlength : (answers.map Except.ok : List Outcome).length = combos.length := by
    rw [List.length_map, hanswers.length_eq]
  refine ⟨_, _, run_combinationCounts true houtcomes hlength, ?_⟩
  rw [counts_of_answers hanswers]
  show some (List.foldr (fun m k : Int => m + k) 0 _) = _
  rw [foldr_add_natCast,
    sum_countP_of_disjoint (l := file.voters) (h.imp fun hcc v _ => hcc file.world v)]

/-- Disjointness is what the total of a chart rests on. -/
theorem countsApart_of_pairwise
    (halike : ∀ c ∈ combos, ∀ c' ∈ combos, ∀ w v, countsVoter year spec w c v = true →
      countsVoter year spec w c' v = true → c.Alike c')
    (hsame : ∀ c ∈ combos, ∀ c' ∈ combos, c.Alike c' → ∀ w v,
      countsVoter year spec w c v = countsVoter year spec w c' v)
    (hdiffer : spec.SpelledOnce → combos.Pairwise fun c c' => ¬c.Alike c') :
    CountsApart spec year combos := by
  have hdisjoint : spec.SpelledOnce → combos.Pairwise fun c c' => ∀ w v,
      ¬(countsVoter year spec w c v = true ∧ countsVoter year spec w c' v = true) := by
    intro hs
    refine (hdiffer hs).imp_of_mem fun {c c'} hc hc' hne w v => ?_
    rintro ⟨hv, hv'⟩
    exact hne (halike c hc c' hc' w v hv hv')
  exact ⟨halike, hsame, hdisjoint, fun hs _ _ _ _ _ => total_of_disjoint (hdisjoint hs)⟩

end Combos

/-- Two choices of values that are spelled once differ in a value that is compared otherwise. -/
theorem pairwise_not_alike {params : List (String × String)} {allowed ignored : List String}
    {raiseCase : Bool} {spec : FilterSpec}
    (h : FilterSpec.ofParams params allowed ignored raiseCase = .ok spec)
    (hcolumns : CrossesColumns spec) (hs : SpelledOnce spec) :
    (choices (spec.crossed Dimension.combinable)).Pairwise fun row row' =>
      ¬Combination.Alike ⟨row⟩ ⟨row'⟩ := by
  let Otherwise (name x y : String) : Prop :=
    ∃ d : Dimension, d.name = name ∧ d.compared x ≠ d.compared y
  have hvalues : ∀ e ∈ spec.crossed Dimension.combinable, e.2.Pairwise (Otherwise e.1) := by
    rintro ⟨name, values⟩ he
    obtain ⟨hname, hg⟩ := mem_crossed_iff.mp he
    obtain ⟨d, -, rfl⟩ := List.mem_map.mp hname
    have hnodup := nodup_compared h hcolumns hs hname hg
    exact (List.pairwise_map.mp hnodup).imp fun hne => ⟨d, rfl, hne⟩
  refine (pairwise_choices hvalues).imp ?_
  rintro row row' ⟨_, x, y, hx, hy, d, rfl, hne⟩ halike
  exact hne (halike d x y hx hy)

/-- The combinations of an accepted request whose crossed dimensions are single columns select a
common voter only if they are spellings of one another. Where there are no spellings, every voter is
counted at most once. -/
theorem countsApart_of_ofParams {params : List (String × String)} {allowed ignored : List String}
    {raiseCase : Bool} {spec : FilterSpec} {limit : Option Int} {combos : List Combination}
    (h : FilterSpec.ofParams params allowed ignored raiseCase = .ok spec)
    (hcolumns : CrossesColumns spec)
    (hchart : chartCombinations spec Dimension.combinable limit = .ok combos) (year : Int) :
    CountsApart spec year combos := by
  obtain ⟨-, -, rfl⟩ := chartCombinations_eq_ok_iff.mp hchart
  cases hid : spec.exactId? with
  | some id =>
    -- A registration number has one combination.
    simp only [combinations, hid]
    refine countsApart_of_pairwise ?_ ?_ fun _ => List.pairwise_singleton _ _
    · simp only [List.mem_singleton, forall_eq]
      rintro w v - - d x y hx hy
      rw [(Prod.mk.inj (List.mem_singleton.mp hx)).2, (Prod.mk.inj (List.mem_singleton.mp hy)).2]
    · simp
  | none =>
    rw [combinations_eq_choices hid]
    split
    · exact countsApart_of_pairwise (by simp) (by simp) fun _ => .nil
    · refine countsApart_of_pairwise ?_ ?_ fun hs => List.pairwise_map.mpr
        (pairwise_not_alike h hcolumns hs)
      · intro c hc c' hc' w v hv hv'
        obtain ⟨row, hrow, rfl⟩ := List.mem_map.mp hc
        obtain ⟨row', hrow', rfl⟩ := List.mem_map.mp hc'
        exact alike_of_holds hcolumns hrow hrow' ((countsVoter_iff_holds hid hrow).mp hv)
          ((countsVoter_iff_holds hid hrow').mp hv')
      · intro c hc c' hc' halike w v
        obtain ⟨row, hrow, rfl⟩ := List.mem_map.mp hc
        obtain ⟨row', hrow', rfl⟩ := List.mem_map.mp hc'
        have hback : Combination.Alike ⟨row'⟩ ⟨row⟩ := fun d x y hx hy => (halike d y x hy hx).symm
        rw [Bool.eq_iff_iff, countsVoter_iff_holds hid hrow, countsVoter_iff_holds hid hrow']
        exact ⟨holds_of_alike hcolumns hrow hrow' halike,
          holds_of_alike hcolumns hrow' hrow hback⟩

/-- Voters of two counties in one age range. -/
def twoCounties : FilterSpec := ofPairs [("county", ["Fulton", "Cobb"]), ("ageRange", ["75+"])]

/-- No voter is counted in two counties. -/
theorem countsApart_twoCounties :
    FilterSpec.ofParams [("county", "Fulton"), ("county", " Cobb"), ("ageRange", "75+")]
      Dimension.allNames ["chartType", "years"] false = .ok twoCounties ∧
    CrossesColumns twoCounties ∧
    chartCombinations twoCounties Dimension.combinable (some 200) =
      .ok [⟨[("county", "Fulton"), ("ageRange", "75+")]⟩,
        ⟨[("county", "Cobb"), ("ageRange", "75+")]⟩] ∧
    twoCounties.SpelledOnce ∧
    ∀ w v, ¬(countsVoter 2024 twoCounties w ⟨[("county", "Fulton"), ("ageRange", "75+")]⟩ v = true ∧
      countsVoter 2024 twoCounties w ⟨[("county", "Cobb"), ("ageRange", "75+")]⟩ v = true) := by
  have h : FilterSpec.ofParams [("county", "Fulton"), ("county", " Cobb"), ("ageRange", "75+")]
      Dimension.allNames ["chartType", "years"] false = .ok twoCounties := by rfl
  have hcolumns : CrossesColumns twoCounties := by
    refine ⟨fun d _ hd => ?_, fun values hg => ?_⟩
    · cases d <;> first | rfl | exact absurd hd (by decide)
    · have hages : twoCounties.get? Dimension.ageRange.name = some ["75+"] := by decide
      cases hages.symm.trans hg
      decide
  have hchart : chartCombinations twoCounties Dimension.combinable (some 200) =
      .ok [⟨[("county", "Fulton"), ("ageRange", "75+")]⟩,
        ⟨[("county", "Cobb"), ("ageRange", "75+")]⟩] := by
    refine chartCombinations_eq_ok_iff.mpr ⟨by decide, by decide, ?_⟩
    rw [combinations_eq_choices (by decide)]
    decide
  have hs : twoCounties.SpelledOnce := by
    intro d values hfold _ hg
    have hd : twoCounties.has d.name = true := has_iff.mpr ⟨values, hg⟩
    cases d
    case county =>
      have hcounty : twoCounties.get? Dimension.county.name = some ["Fulton", "Cobb"] := by decide
      cases hcounty.symm.trans hg
      decide
    all_goals first | exact absurd hd (by decide) | exact absurd hfold (by decide)
  have hpair := (countsApart_of_ofParams h hcolumns hchart 2024).disjoint hs
  exact ⟨h, hcolumns, hchart, hs, (List.pairwise_cons.mp hpair).1 _ (List.mem_singleton.mpr rfl)⟩

/-- One county in two spellings. -/
def oneCountyTwice : FilterSpec := ofPairs [("county", ["Fulton", "FULTON"])]

/-- A database that writes upper case as filters do. -/
def upperWorld : World := { (default : World) with upper := Text.upper }

/-- A voter of whom only the county is kept. -/
def fultonVoter : Voter :=
  { (default : Voter) with
    text := fun
      | .countyName => some "FULTON"
      | _ => none }

/-- A chart keeps the case of its labels, so one county in two spellings is counted twice: the total
of one voter is two. -/
theorem not_disjoint_spellings :
    FilterSpec.ofParams [("county", "Fulton"), ("county", "FULTON")] Dimension.allNames
      ["chartType", "years"] false = .ok oneCountyTwice ∧
    CrossesColumns oneCountyTwice ∧
    chartCombinations oneCountyTwice Dimension.combinable (some 200) =
      .ok [⟨[("county", "Fulton")]⟩, ⟨[("county", "FULTON")]⟩] ∧
    countsVoter 2024 oneCountyTwice upperWorld ⟨[("county", "Fulton")]⟩ fultonVoter = true ∧
    countsVoter 2024 oneCountyTwice upperWorld ⟨[("county", "FULTON")]⟩ fultonVoter = true ∧
    [fultonVoter].countP (countsVoter 2024 oneCountyTwice upperWorld ⟨[("county", "Fulton")]⟩) +
      [fultonVoter].countP (countsVoter 2024 oneCountyTwice upperWorld ⟨[("county", "FULTON")]⟩) =
        2 := by
  refine ⟨by rfl, ⟨fun d _ hd => ?_, fun values hg => ?_⟩, ?_, by decide, by decide, by decide⟩
  · cases d <;> first | rfl | exact absurd hd (by decide)
  · have hages : oneCountyTwice.get? Dimension.ageRange.name = none := by decide
    cases hages.symm.trans hg
  · refine chartCombinations_eq_ok_iff.mpr ⟨by decide, by decide, ?_⟩
    rw [combinations_eq_choices (by decide)]
    decide

end Chart

end Electorate
