import Electorate.Chart.Counts
import Electorate.Proofs.Alternatives
import Electorate.Proofs.Odometer
import Mathlib.Data.List.DropRight

/-!
# The combinations of a chart cover the filter

A chart counts one combination per bar: the filter without the crossed dimensions, and one value
for each of these put back.

* `Dimension.readsFirst_of_combinable`: all values of a crossed dimension are read, so that they
  are alternatives.
* `get?_combinationSpec`: what a name selects in the filter of a combination.
* `holds_of_combination`, `exists_combination_holds`: from a combination to the filter and back.
* `combination_cover`: the rows of a filter are those of its combinations. An unknown age range adds
  no rows to those of known ones, but asks nothing where it stands alone, so that its combination
  may have rows that the filter has not.
-/

namespace Electorate

open Electorate.Sql Electorate.Sql.Predicate

variable {w : World} {v : Voter} {year : Int} {spec : FilterSpec} {values : List String}

/-! ## Crossed dimensions -/

namespace Dimension

/-- All values of a crossed dimension are read. -/
theorem readsFirst_of_combinable {d : Dimension} (hd : d.name ∈ combinable) :
    d.readsFirst = false := by
  cases d
  case firstName | lastName | ageMin | ageMax | neverVoted | notVotedSinceYear | radiusFilter =>
    exact absurd hd (by decide)
  all_goals rfl

/-- The values of a crossed dimension are alternatives. -/
theorem holds_iff_exists_of_combinable {d : Dimension} (hd : d.name ∈ combinable)
    (hv : values ≠ []) : d.Holds w v year spec values ↔ ∃ x ∈ values, d.Holds w v year spec [x] := by
  refine holds_iff_exists_value (readsFirst_of_combinable hd) hv ?_
  rintro rfl
  exact absurd hd (by decide)

/-- A value of a crossed dimension constrains on its own, unless it is an unknown age bucket. -/
theorem constrains_singleton {d : Dimension} (hd : d.name ∈ combinable) {x : String}
    (hx : d = .ageRange → (findAgeBucket? x).isSome) : d.Constrains spec [x] := by
  cases d
  case ageRange => exact ⟨x, by simp, hx rfl⟩
  all_goals first | exact trivial | exact absurd hd (by decide)

end Dimension

/-! ## Choices -/

/-- A value for each name can be chosen at once. -/
theorem exists_choice {P : String → String → Prop} {es : List (String × List String)}
    (h : ∀ e ∈ es, ∃ x ∈ e.2, P e.1 x) : ∃ row ∈ choices es, ∀ a ∈ row, P a.1 a.2 := by
  induction es with
  | nil => exact ⟨[], by simp [choices], by simp⟩
  | cons e es ih =>
    obtain ⟨x, hx, hp⟩ := h e (by simp)
    obtain ⟨row, hr, hrow⟩ := ih fun e he => h e (List.mem_cons_of_mem _ he)
    refine ⟨(e.1, x) :: row, ?_, ?_⟩
    · exact mem_choices_iff.mpr (.cons ⟨rfl, hx⟩ (mem_choices_iff.mp hr))
    · exact List.forall_mem_cons.mpr ⟨hp, hrow⟩

theorem map_fst_of_mem_choices {es : List (String × List String)} {row : List (String × String)}
    (h : row ∈ choices es) : row.map Prod.fst = es.map Prod.fst := by
  have hr := mem_choices_iff.mp h
  induction hr with
  | nil => rfl
  | cons ha _ ih => simp [ha.1, ih (mem_choices_iff.mpr ‹_›)]

/-- A choice has one of the values of each name, and no other name. -/
theorem lookup_of_mem_choices {es : List (String × List String)} {row : List (String × String)}
    (h : row ∈ choices es) (name : String) :
    (es.lookup name = none ∧ row.lookup name = none) ∨
      ∃ values x, es.lookup name = some values ∧ row.lookup name = some x ∧ x ∈ values := by
  have hr := mem_choices_iff.mp h
  clear h
  induction hr with
  | nil => exact .inl ⟨rfl, rfl⟩
  | @cons e a es row ha _ ih =>
    obtain ⟨m, us⟩ := e
    obtain ⟨m', x⟩ := a
    obtain ⟨rfl, hx⟩ := ha
    by_cases hn : name = m'
    · subst hn
      exact .inr ⟨us, x, by simp, by simp, hx⟩
    · simpa [List.lookup_cons, beq_eq_false_iff_ne.mpr hn] using ih

/-! ## The filter of a combination -/

namespace FilterSpec

theorem mem_crossed_iff {name : String} {combinable : List String} :
    (name, values) ∈ spec.crossed combinable ↔
      name ∈ combinable ∧ spec.get? name = some values := by
  simp [crossed, List.mem_filter, get?_eq_some_iff, and_comm]

theorem nodup_crossed (spec : FilterSpec) (combinable : List String) :
    ((spec.crossed combinable).map Prod.fst).Nodup :=
  spec.names_nodup.sublist (List.filter_sublist.map _)

theorem lookup_crossed (name : String) (combinable : List String) :
    (spec.crossed combinable).lookup name = if name ∈ combinable then spec.get? name else none := by
  unfold crossed
  rw [lookup_filter_fst combinable.contains name, get?]
  by_cases h : name ∈ combinable <;> simp [h]

end FilterSpec

namespace Chart

open FilterSpec

variable {row : List (String × String)} {crossing : List String}

theorem nodup_names_of_mem_choices (hrow : row ∈ choices (spec.crossed crossing)) :
    (row.map Prod.fst).Nodup :=
  map_fst_of_mem_choices hrow ▸ nodup_crossed spec crossing

/-- The filter of a combination selects the chosen value of a crossed name and what the whole
filter selects of any other. -/
theorem get?_combinationSpec (hrow : row ∈ choices (spec.crossed crossing)) (name : String) :
    (combinationSpec (spec.without crossing) ⟨row⟩).get? name =
      if name ∈ crossing then (row.lookup name).map ([·]) else spec.get? name := by
  have hn := nodup_names_of_mem_choices hrow
  have hl := lookup_of_mem_choices hrow name
  rw [lookup_crossed] at hl
  rw [combinationSpec, get?_merge, Combination.lookup_override hn, get?_without]
  by_cases hc : name ∈ crossing
  · rw [if_pos hc, if_pos hc, Option.or_none]
    cases row.lookup name <;> rfl
  · rw [if_neg hc] at hl
    have hnone : row.lookup name = none := by
      rcases hl with ⟨-, h⟩ | ⟨_, _, h, -⟩
      · exact h
      · cases h
    rw [if_neg hc, if_neg hc, hnone, Option.map_none, Option.none_or, filter_get?]

theorem exactId?_combinationSpec (hrow : row ∈ choices (spec.crossed Dimension.combinable)) :
    (combinationSpec (spec.without Dimension.combinable) ⟨row⟩).exactId? = spec.exactId? :=
  exactId?_congr (by rw [get?_combinationSpec hrow, if_neg (by decide)])

theorem asksSatOut_combinationSpec (hrow : row ∈ choices (spec.crossed Dimension.combinable)) :
    (combinationSpec (spec.without Dimension.combinable) ⟨row⟩).asksSatOut = spec.asksSatOut :=
  asksSatOut_congr (by rw [get?_combinationSpec hrow, if_neg (by decide)])

theorem has_ageRange_combinationSpec (hrow : row ∈ choices (spec.crossed Dimension.combinable)) :
    (combinationSpec (spec.without Dimension.combinable) ⟨row⟩).has Dimension.ageRange.name =
      spec.has Dimension.ageRange.name := by
  have hl := lookup_of_mem_choices hrow Dimension.ageRange.name
  rw [lookup_crossed, if_pos (by decide)] at hl
  rw [Bool.eq_iff_iff, has_iff, has_iff, get?_combinationSpec hrow, if_pos (by decide)]
  rcases hl with ⟨hs, hr⟩ | ⟨values, x, hs, hr, -⟩ <;> simp [hs, hr]

/-- What a chosen value means in its dimension. -/
def ValueHolds (w : World) (v : Voter) (year : Int) (spec : FilterSpec) (name x : String) : Prop :=
  ∀ d : Dimension, d.name = name → d.Constrains spec [x] → d.Holds w v year spec [x]

/-- A row that the filter selects has a combination of values that hold of it. -/
theorem exists_combination_holds (h : spec.Holds w v year) :
    ∃ row ∈ choices (spec.crossed Dimension.combinable),
      (combinationSpec (spec.without Dimension.combinable) ⟨row⟩).Holds w v year := by
  have hvalue : ∀ e ∈ spec.crossed Dimension.combinable,
      ∃ x ∈ e.2, ValueHolds w v year spec e.1 x := by
    rintro ⟨name, values⟩ he
    obtain ⟨hc, hg⟩ := mem_crossed_iff.mp he
    obtain ⟨d, -, rfl⟩ := List.mem_map.mp hc
    by_cases hC : d.Constrains spec values
    · have hv := ne_nil_of_get? hg
      obtain ⟨x, hx, hh⟩ := (Dimension.holds_iff_exists_of_combinable hc hv).mp (h d values hg hC)
      refine ⟨x, hx, fun d' hd' _ => ?_⟩
      rwa [Dimension.name_injective hd']
    · -- No value is a known age bucket, so that none of them constrains.
      obtain ⟨x, hx⟩ := List.exists_mem_of_ne_nil values (ne_nil_of_get? hg)
      refine ⟨x, hx, fun d' hd' hC' => ?_⟩
      rw [Dimension.name_injective hd'] at hC'
      exact absurd ((Dimension.constrains_iff_exists_value
        (Dimension.readsFirst_of_combinable hc) (ne_nil_of_get? hg)).mpr ⟨x, hx, hC'⟩) hC
  obtain ⟨row, hrow, hall⟩ := exists_choice hvalue
  refine ⟨row, hrow, fun d values hg hC => ?_⟩
  rw [get?_combinationSpec hrow] at hg
  rw [Dimension.constrains_congr (has_ageRange_combinationSpec hrow)] at hC
  rw [Dimension.holds_congr (asksSatOut_combinationSpec hrow)]
  split at hg
  · obtain ⟨x, hx, rfl⟩ := Option.map_eq_some_iff.mp hg
    have hmem := (lookup_eq_some_iff (nodup_names_of_mem_choices hrow)).mp hx
    exact hall (d.name, x) hmem d rfl hC
  · exact h d values hg hC

/-- A row of a combination is one of the filter if no bucket of ages is unknown. -/
theorem holds_of_combination
    (hages : ∀ values, spec.get? Dimension.ageRange.name = some values →
      ∀ x ∈ values, (findAgeBucket? x).isSome)
    (hrow : row ∈ choices (spec.crossed Dimension.combinable))
    (h : (combinationSpec (spec.without Dimension.combinable) ⟨row⟩).Holds w v year) :
    spec.Holds w v year := by
  intro d values hg hC
  have hd := h d
  rw [get?_combinationSpec hrow] at hd
  simp only [Dimension.constrains_congr (has_ageRange_combinationSpec hrow),
    Dimension.holds_congr (asksSatOut_combinationSpec hrow)] at hd
  by_cases hc : d.name ∈ Dimension.combinable
  · -- The chosen value is one of those that the filter has for the dimension.
    have hl := lookup_of_mem_choices hrow d.name
    rw [lookup_crossed, if_pos hc, hg] at hl
    obtain ⟨_, x, ⟨⟩, hr, hx⟩ := hl.resolve_left (by simp)
    rw [if_pos hc, hr] at hd
    have hx' : d = .ageRange → (findAgeBucket? x).isSome := by
      rintro rfl
      exact hages values hg x hx
    exact (Dimension.holds_iff_exists_of_combinable hc (ne_nil_of_get? hg)).mpr
      ⟨x, hx, hd [x] rfl (Dimension.constrains_singleton hc hx')⟩
  · rw [if_neg hc] at hd
    exact hd values hg hC

/-! ## Registration numbers -/

/-- The combination that asks for a registration number asks for nothing else. -/
theorem predicate_exactId {id : String} (hid : spec.exactId? = some id) :
    combinationPredicate year (spec.without crossing) ⟨[(Dimension.exactId.name, id)]⟩ =
      spec.predicate year := by
  have hput : (combinationSpec (spec.without crossing) ⟨[(Dimension.exactId.name, id)]⟩).exactId? =
      some id := by
    obtain ⟨value, -, rfl, hne⟩ := exactId?_eq_some_iff.mp hid
    refine exactId?_eq_some_iff.mpr ⟨Text.strip value, ?_, Text.strip_strip value, hne⟩
    rw [first?, combinationSpec, get?_merge, Combination.lookup_override (by simp)]
    simp [Option.filter]
  simp only [combinationPredicate, predicate, constraints, hput, hid]

/-! ## Covering -/

/-- Every row of a filter is a row of one of its combinations. Where every selected age range is a
known one, a row of a combination is a row of the filter. -/
theorem combination_cover {limit : Option Int} {combos : List Combination}
    (h : chartCombinations spec Dimension.combinable limit = .ok combos) (w : World) (v : Voter)
    (year : Int) :
    ((spec.predicate year).eval w v = .yes → ∃ c ∈ combos,
      (combinationPredicate year (spec.without Dimension.combinable) c).eval w v = .yes) ∧
    ((∀ values, spec.get? Dimension.ageRange.name = some values →
        ∀ x ∈ values, (findAgeBucket? x).isSome) →
      ∀ c ∈ combos,
        (combinationPredicate year (spec.without Dimension.combinable) c).eval w v = .yes →
        (spec.predicate year).eval w v = .yes) := by
  obtain ⟨hone, -, rfl⟩ := chartCombinations_eq_ok_iff.mp h
  cases hid : spec.exactId? with
  | some id =>
    simp only [combinations, hid, List.mem_singleton, exists_eq_left, forall_eq,
      predicate_exactId hid]
    exact ⟨fun hs => hs, fun _ hs => hs⟩
  | none =>
    have hne : spec.crossed Dimension.combinable ≠ [] := by
      intro hc
      simp [combinationCount_eq hid, hc] at hone
    simp only [combinations_eq_choices hid, if_neg hne]
    constructor
    · intro hs
      obtain ⟨row, hrow, hh⟩ := exists_combination_holds ((selects_predicate_iff hid).mp hs)
      have hid' := (exactId?_combinationSpec hrow).trans hid
      exact ⟨⟨row⟩, List.mem_map_of_mem hrow, (selects_predicate_iff hid').mpr hh⟩
    · intro hages c hc hs
      obtain ⟨row, hrow, rfl⟩ := List.mem_map.mp hc
      have hid' := (exactId?_combinationSpec hrow).trans hid
      exact (selects_predicate_iff hid).mpr
        (holds_of_combination hages hrow ((selects_predicate_iff hid').mp hs))

/-- Voters of two districts who never voted, and those of each district. -/
theorem combination_cover_districts :
    chartCombinations
      (ofPairs [("congressionalDistrict", ["005", "006"]), ("neverVoted", ["true"])])
      Dimension.combinable (some 2) =
        .ok [⟨[("congressionalDistrict", "005")]⟩, ⟨[("congressionalDistrict", "006")]⟩] ∧
    ∃ c ∈ [(⟨[("congressionalDistrict", "005")]⟩ : Combination),
        ⟨[("congressionalDistrict", "006")]⟩],
      (combinationPredicate 2024 ((ofPairs [("congressionalDistrict", ["005", "006"]),
        ("neverVoted", ["true"])]).without Dimension.combinable) c).eval default
          ⟨fun _ => some "006", none, none, none, none, none, none, fun _ => none⟩ = .yes := by
  have h : chartCombinations
      (ofPairs [("congressionalDistrict", ["005", "006"]), ("neverVoted", ["true"])])
      Dimension.combinable (some 2) =
        .ok [⟨[("congressionalDistrict", "005")]⟩, ⟨[("congressionalDistrict", "006")]⟩] := by
    refine chartCombinations_eq_ok_iff.mpr ⟨by decide, by decide, ?_⟩
    rw [combinations_eq_choices (by decide)]
    decide
  exact ⟨h, (combination_cover h _ _ 2024).1 (by decide)⟩

/-- The combination of an unknown age range has rows that the filter has not. -/
example : ((ofPairs [("ageRange", ["18-23", "old"])]).predicate 2024).eval default default ≠ .yes ∧
    (combinationPredicate 2024 ((ofPairs [("ageRange", ["18-23", "old"])]).without
      Dimension.combinable) ⟨[("ageRange", "old")]⟩).eval default default = .yes := by
  decide

end Chart

end Electorate
