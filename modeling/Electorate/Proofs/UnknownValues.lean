import Electorate.Proofs.Alternatives

/-!
# Values that a dimension does not recognise

Some dimensions pass over the values that they do not recognise, so that these leave the rows of a
filter as they are. One thing breaks this: the presence of an age range takes the place of single
ages, also where its values are unknown.

* `Dimension.lenient`, `Dimension.Recognises`: these dimensions, and the values that they know.
* `Dimension.constrains_append_unknown`, `Dimension.holds_append_unknown`: behind other values, an
  unknown one changes nothing of what a dimension asks.
* `FilterSpec.Gains`: a filter with one more value, at whatever place its dimension stands.
* `FilterSpec.holds_iff_of_gains`: the rows stay the same while no age range appears.
* `FilterSpec.holds_iff_of_gains_ageRange`: an unknown age range that appears removes single ages.
* `FilterSpec.eval_of_gains_unknown`: both together, for the rows that the conditions select.
* `FilterSpec.not_unchanged_ageRange`: a voter whom an unknown age range adds.
-/

namespace Electorate

open Electorate.Sql Electorate.Sql.Predicate

variable {w : World} {v : Voter} {year : Int} {values : List String} {x : String}

namespace Dimension

/-- The dimensions that pass over the values that they do not recognise. -/
def lenient : List Dimension :=
  [ageRange, scoreRange, income, education, unemployment, electionYear, voterEventMethod,
    redistrictingAffected, residentAddress]

/-- The value is known to its dimension: as the name of a bucket, a bracket, a way of voting or a
district move, as a year, or as an address of eight parts that are not all empty. -/
def Recognises (d : Dimension) (x : String) : Prop :=
  match d with
  | .ageRange => ∃ b ∈ ageBuckets, b.key = Text.strip x
  | .scoreRange => ∃ b ∈ scoreRanges, b.isNamedBy x = true
  | .income => ∃ b ∈ incomeBrackets, b.isNamedBy x = true
  | .education => ∃ b ∈ educationBrackets, b.isNamedBy x = true
  | .unemployment => ∃ b ∈ unemploymentBrackets, b.isNamedBy x = true
  | .electionYear => (Number.readInteger? x).isSome
  | .voterEventMethod => Text.word x ∈ eventMethods
  | .redistrictingAffected => ∃ m, MeansMove (Text.word x) m
  | .residentAddress => ∃ a, ResidentAddress.ofParam? x = some a ∧ a.isEmpty = false
  | _ => True

variable {d : Dimension} {spec : FilterSpec}

theorem readsFirst_of_lenient (hd : d ∈ lenient) : d.readsFirst = false := by
  cases d <;> first | rfl | exact absurd hd (by decide)

theorem isSome_findBracket?_iff {table : List NumericBracket} :
    (findBracket? table x).isSome ↔ ∃ b ∈ table, b.isNamedBy x = true := by
  rw [findBracket?, List.find?_isSome]

theorem isSome_findAgeBucket?_iff :
    (findAgeBucket? x).isSome ↔ ∃ b ∈ ageBuckets, b.key = Text.strip x := by
  rw [findAgeBucket?, List.find?_isSome]
  simp only [beq_iff_eq]

/-- A value that stands alone constrains exactly if it is known. -/
theorem constrains_singleton_iff (hd : d ∈ lenient) :
    d.Constrains spec [x] ↔ d.Recognises x := by
  cases d
  case ageRange =>
    simp only [Constrains, Recognises, List.mem_singleton, exists_eq_left,
      isSome_findAgeBucket?_iff]
  case scoreRange | income | education | unemployment =>
    simp only [Constrains, Recognises, List.mem_singleton, exists_eq_left,
      isSome_findBracket?_iff]
  case electionYear | voterEventMethod | residentAddress | redistrictingAffected =>
    simp only [Constrains, Recognises, List.mem_singleton, exists_eq_left]
  all_goals exact absurd hd (by decide)

/-- What a value asks of a row can be fulfilled only if the value is known. -/
theorem constrains_of_holds_singleton (hd : d ∈ lenient) (h : d.Holds w v year spec [x]) :
    d.Constrains spec [x] := by
  cases d
  case ageRange | scoreRange | income | education | unemployment =>
    obtain ⟨y, hy, b, hb, -⟩ := h
    exact ⟨y, hy, Option.isSome_of_eq_some hb⟩
  case electionYear =>
    obtain ⟨own, -, y, hy, n, hn, -⟩ := h
    exact ⟨y, hy, Option.isSome_of_eq_some hn⟩
  case voterEventMethod =>
    obtain ⟨y, hy, hm, -⟩ := h
    exact ⟨y, hy, hm⟩
  case residentAddress =>
    obtain ⟨y, hy, a, ha, he, -⟩ := h
    exact ⟨y, hy, a, ha, he⟩
  case redistrictingAffected =>
    obtain ⟨y, hy, m, hm, -⟩ := h
    exact ⟨y, hy, m, hm⟩
  all_goals exact absurd hd (by decide)

/-- One of several values and of one that has not the property has it. -/
theorem exists_mem_append_singleton_iff {P : String → Prop} (hx : ¬P x) :
    (∃ y ∈ values ++ [x], P y) ↔ ∃ y ∈ values, P y := by
  constructor
  · rintro ⟨y, hy, hp⟩
    rcases List.mem_append.mp hy with hy | hy
    · exact ⟨y, hy, hp⟩
    · obtain rfl := List.mem_singleton.mp hy
      exact absurd hp hx
  · rintro ⟨y, hy, hp⟩
    exact ⟨y, List.mem_append_left _ hy, hp⟩

/-- Behind other values, an unknown one constrains nothing. -/
theorem constrains_append_unknown (hd : d ∈ lenient) (hx : ¬d.Recognises x) (hv : values ≠ []) :
    d.Constrains spec (values ++ [x]) ↔ d.Constrains spec values := by
  have hread := readsFirst_of_lenient hd
  have hx' : ¬d.Constrains spec [x] := mt (constrains_singleton_iff hd).mp hx
  rw [constrains_iff_exists_value hread (List.append_ne_nil_of_left_ne_nil hv _),
    constrains_iff_exists_value hread hv]
  exact exists_mem_append_singleton_iff hx'

/-- Behind other values, an unknown one asks nothing. -/
theorem holds_append_unknown (hd : d ∈ lenient) (hx : ¬d.Recognises x) (hv : values ≠ []) :
    d.Holds w v year spec (values ++ [x]) ↔ d.Holds w v year spec values := by
  have hread := readsFirst_of_lenient hd
  have hdate : d = .electionDate → spec.asksSatOut = false := by
    rintro rfl
    exact absurd hd (by decide)
  have hx' : ¬d.Holds w v year spec [x] := fun h =>
    hx ((constrains_singleton_iff hd).mp (constrains_of_holds_singleton hd h))
  rw [holds_iff_exists_value hread (List.append_ne_nil_of_left_ne_nil hv _) hdate,
    holds_iff_exists_value hread hv hdate]
  exact exists_mem_append_singleton_iff hx'

end Dimension

/-! ## Filters -/

namespace FilterSpec

/-- The second filter has one more value under a name, behind those of the first, and otherwise
selects the same. -/
structure Gains (a b : FilterSpec) (name value : String) : Prop where
  there : b.get? name = some ((a.get? name).getD [] ++ [value])
  others : ∀ m, m ≠ name → b.get? m = a.get? m

theorem gains_add (spec : FilterSpec) (name value : String) :
    Gains spec (spec.add name [value]) name value where
  there := by rw [get?_add (by simp), if_pos rfl]
  others := fun m hm => by rw [get?_add (by simp), if_neg hm]

variable {a b : FilterSpec} {d : Dimension}

theorem Gains.get?_eq (h : Gains a b d.name x) {e : Dimension} (he : e ≠ d) :
    b.get? e.name = a.get? e.name :=
  h.others e.name fun hn => he (Dimension.name_injective hn)

theorem Gains.exactId?_eq (h : Gains a b d.name x) (hd : d ∈ Dimension.lenient) :
    b.exactId? = a.exactId? := by
  refine exactId?_congr (h.get?_eq (e := .exactId) ?_)
  rintro rfl
  exact absurd hd (by decide)

theorem Gains.asksSatOut_eq (h : Gains a b d.name x) (hd : d ∈ Dimension.lenient) :
    b.asksSatOut = a.asksSatOut := by
  refine asksSatOut_congr (h.get?_eq (e := .electionParticipation) ?_)
  rintro rfl
  exact absurd hd (by decide)

/-- The dimension is there afterwards. -/
theorem Gains.has (h : Gains a b d.name x) : b.has d.name = true := has_iff.mpr ⟨_, h.there⟩

theorem Gains.has_eq (h : Gains a b d.name x) {e : Dimension} (he : e ≠ d) :
    b.has e.name = a.has e.name := by
  rw [Bool.eq_iff_iff, has_iff, has_iff, h.get?_eq he]

/-- One more value that is unknown leaves the rows as they are while no age range appears. -/
theorem holds_iff_of_gains (h : Gains a b d.name x) (hd : d ∈ Dimension.lenient)
    (hx : ¬d.Recognises x)
    (hages : b.has Dimension.ageRange.name = a.has Dimension.ageRange.name) :
    b.Holds w v year ↔ a.Holds w v year := by
  have hsat := h.asksSatOut_eq hd
  refine forall_congr' fun e => ?_
  by_cases he : e = d
  · subst he
    rw [h.there]
    cases hg : a.get? e.name with
    | none =>
      -- The value stands alone.
      have hC : ¬e.Constrains b [x] := mt (Dimension.constrains_singleton_iff hd).mp hx
      simp [hC]
    | some us =>
      have hus : us ≠ [] := ne_nil_of_get? hg
      simp only [Option.getD_some, Option.some.injEq, forall_eq']
      rw [Dimension.constrains_append_unknown hd hx hus,
        Dimension.holds_append_unknown hd hx hus, Dimension.constrains_congr hages,
        Dimension.holds_congr hsat]
  · rw [h.get?_eq he]
    refine forall_congr' fun us => imp_congr_right fun _ => ?_
    rw [Dimension.constrains_congr hages, Dimension.holds_congr hsat]

/-- The dimensions of single ages. -/
def singleAges : List String := [Dimension.ageMin.name, Dimension.ageMax.name]

theorem get?_without_singleAges {e : Dimension} (hmin : e ≠ .ageMin) (hmax : e ≠ .ageMax) :
    (a.without singleAges).get? e.name = a.get? e.name := by
  have hnot : e.name ∉ singleAges := by
    simp only [singleAges, List.mem_cons, List.not_mem_nil, or_false, not_or]
    exact ⟨fun h => hmin (Dimension.name_injective h), fun h => hmax (Dimension.name_injective h)⟩
  rw [get?_without, if_neg hnot]

/-- An unknown age range that appears takes the place of single ages and asks nothing instead. -/
theorem holds_iff_of_gains_ageRange (h : Gains a b Dimension.ageRange.name x)
    (hx : ¬Dimension.ageRange.Recognises x) (hnew : a.has Dimension.ageRange.name = false) :
    b.Holds w v year ↔ (a.without singleAges).Holds w v year := by
  have hd : Dimension.ageRange ∈ Dimension.lenient := by decide
  have hnone := get?_eq_none_of_has hnew
  have hsat : b.asksSatOut = (a.without singleAges).asksSatOut :=
    (h.asksSatOut_eq hd).trans
      (asksSatOut_congr (get?_without_singleAges (by decide) (by decide))).symm
  refine forall_congr' fun e => ?_
  by_cases hmin : e = .ageMin
  · subst hmin
    have hgone : (a.without singleAges).get? Dimension.ageMin.name = none := by
      rw [get?_without, if_pos (by decide)]
    simp [hgone, Dimension.Constrains, h.has]
  by_cases hmax : e = .ageMax
  · subst hmax
    have hgone : (a.without singleAges).get? Dimension.ageMax.name = none := by
      rw [get?_without, if_pos (by decide)]
    simp [hgone, Dimension.Constrains, h.has]
  rw [get?_without_singleAges hmin hmax]
  by_cases he : e = .ageRange
  · subst he
    have hC : ¬Dimension.ageRange.Constrains b [x] :=
      mt (Dimension.constrains_singleton_iff hd).mp hx
    rw [h.there, hnone]
    simp [hC]
  · rw [h.get?_eq he]
    refine forall_congr' fun us => imp_congr_right fun _ => ?_
    rw [Dimension.constrains_congr_of_ne hmin hmax b (a.without singleAges),
      Dimension.holds_congr hsat]

/-- Single ages that set no condition may be left out. -/
theorem holds_without_singleAges_iff (hid : a.exactId? = none)
    (hfree : ∀ c ∈ a.constraints year, c.dimension ≠ .ageMin ∧ c.dimension ≠ .ageMax) :
    (a.without singleAges).Holds w v year ↔ a.Holds w v year := by
  have hsat : (a.without singleAges).asksSatOut = a.asksSatOut :=
    asksSatOut_congr (get?_without_singleAges (by decide) (by decide))
  have hnot (e : Dimension) (he : e = .ageMin ∨ e = .ageMax) :
      ¬∃ values, a.get? e.name = some values ∧ e.Constrains a values := by
    intro hvalues
    obtain ⟨c, hc, rfl⟩ : ∃ c ∈ a.constraints year, c.dimension = e :=
      (exists_constraint_iff hid e).mpr hvalues
    obtain ⟨hmin, hmax⟩ := hfree c hc
    exact he.elim hmin hmax
  refine forall_congr' fun e => ?_
  by_cases he : e = .ageMin ∨ e = .ageMax
  · have hgone : (a.without singleAges).get? e.name = none := by
      rw [get?_without, if_pos (by rcases he with rfl | rfl <;> decide)]
    constructor
    · intro _ us hg hC
      exact absurd ⟨us, hg, hC⟩ (hnot e he)
    · intro _ us hg
      rw [hgone] at hg
      cases hg
  · obtain ⟨hmin, hmax⟩ := not_or.mp he
    rw [get?_without_singleAges hmin hmax]
    refine forall_congr' fun us => imp_congr_right fun _ => ?_
    rw [Dimension.constrains_congr_of_ne hmin hmax (a.without singleAges) a,
      Dimension.holds_congr hsat]

/-- One more value that its dimension does not recognise leaves the rows of a filter as they are,
unless it makes an age range appear beside single ages that set a condition. Then the rows are those
of the filter without the single ages. -/
theorem eval_of_gains_unknown (hid : a.exactId? = none) (hd : d ∈ Dimension.lenient)
    (h : Gains a b d.name x) (hx : ¬d.Recognises x) (w : World) (v : Voter) (year : Int) :
    ((d = .ageRange → a.has Dimension.ageRange.name = true ∨
        ∀ c ∈ a.constraints year, c.dimension ≠ .ageMin ∧ c.dimension ≠ .ageMax) →
      ((b.predicate year).eval w v = .yes ↔ (a.predicate year).eval w v = .yes)) ∧
    (d = .ageRange → a.has Dimension.ageRange.name = false →
      ((b.predicate year).eval w v = .yes ↔
        ((a.without singleAges).predicate year).eval w v = .yes)) := by
  have ha : Selects w v (a.predicate year) ↔ a.Holds w v year := selects_predicate_iff hid
  have hb : Selects w v (b.predicate year) ↔ b.Holds w v year :=
    selects_predicate_iff ((h.exactId?_eq hd).trans hid)
  constructor
  · intro hage
    refine hb.trans (Iff.trans ?_ ha.symm)
    by_cases he : d = .ageRange
    · subst he
      cases hhas : a.has Dimension.ageRange.name with
      | true => exact holds_iff_of_gains h hd hx (h.has.trans hhas.symm)
      | false =>
        have hfree := (hage rfl).resolve_left (by simp [hhas])
        exact (holds_iff_of_gains_ageRange h hx hhas).trans
          (holds_without_singleAges_iff hid hfree)
    · exact holds_iff_of_gains h hd hx (h.has_eq (Ne.symm he))
  · rintro rfl hnew
    have hid' : (a.without singleAges).exactId? = none :=
      (exactId?_congr (get?_without_singleAges (by decide) (by decide))).trans hid
    exact hb.trans ((holds_iff_of_gains_ageRange h hx hnew).trans (selects_predicate_iff hid').symm)

/-- Voters of at least thirty years. -/
def atLeastThirty : FilterSpec := ofPairs [("ageMin", ["30"])]

/-- A voter of fourteen years in 2024. -/
def youngVoter : Voter := { (default : Voter) with birthYear := some 2010 }

theorem not_recognises_old : ¬Dimension.ageRange.Recognises "old" := by
  show ¬∃ b ∈ ageBuckets, b.key = Text.strip "old"
  decide

/-- An unknown income leaves a filter of ages as it is, and an unknown age range removes the ages. -/
theorem eval_of_gains_rich :
    atLeastThirty.exactId? = none ∧
    ¬Dimension.income.Recognises "rich" ∧
    (((atLeastThirty.add "income" ["rich"]).predicate 2024).eval default youngVoter = .yes ↔
      (atLeastThirty.predicate 2024).eval default youngVoter = .yes) ∧
    (((atLeastThirty.add "ageRange" ["old"]).predicate 2024).eval default youngVoter = .yes ↔
      ((atLeastThirty.without singleAges).predicate 2024).eval default youngVoter = .yes) := by
  have hid : atLeastThirty.exactId? = none := by decide
  have hrich : ¬Dimension.income.Recognises "rich" := by
    show ¬∃ b ∈ incomeBrackets, b.isNamedBy "rich" = true
    decide
  have hincome := eval_of_gains_unknown hid (by decide) (gains_add _ Dimension.income.name "rich")
    hrich default youngVoter 2024
  have hage := eval_of_gains_unknown hid (by decide) (gains_add _ Dimension.ageRange.name "old")
    not_recognises_old default youngVoter 2024
  exact ⟨hid, hrich, hincome.1 (by decide), hage.2 rfl (by decide)⟩

/-- A voter who is not selected by the single age is selected beside an unknown age range. -/
theorem not_unchanged_ageRange :
    atLeastThirty.exactId? = none ∧
    ¬(∃ b ∈ ageBuckets, b.key = Text.strip "old") ∧
    ((atLeastThirty.add "ageRange" ["old"]).predicate 2024).eval default youngVoter = .yes ∧
    (atLeastThirty.predicate 2024).eval default youngVoter ≠ .yes := by
  exact ⟨by decide, by decide, by decide, by decide⟩

end FilterSpec

end Electorate
