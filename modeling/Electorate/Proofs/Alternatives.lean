import Electorate.Proofs.FilterMeaning

/-!
# Values as alternatives

The values of one dimension are alternatives, but for the dimensions that read the first value only.

* `Dimension.readsFirst`: the dimensions that read the first value only.
* `Dimension.constrains_congr`, `Dimension.holds_congr`: what a dimension asks depends on its own
  values and on two names of the filter beside them.
* `Dimension.constrains_iff_exists_value`, `Dimension.holds_iff_exists_value`: in all other
  dimensions, several values ask for one of them.
* `FilterSpec.single`: the filter of one dimension.
* `FilterSpec.selects_single_iff_exists`: its voters are those of its values one by one, where all
  values are read. Where the first is read, the others change nothing (`FilterSpec.alternatives`).
* `FilterSpec.not_alternatives_firstName`: two first names are not alternatives.
-/

namespace Electorate

open Electorate.Sql Electorate.Sql.Predicate

variable {w : World} {v : Voter} {year : Int} {spec : FilterSpec} {values : List String}

theorem Voter.hasText_iff_exists {c : TextColumn} :
    v.HasText c values ↔ ∃ x ∈ values, v.HasText c [x] := by
  unfold Voter.HasText
  constructor
  · rintro ⟨s, hs, hm⟩
    exact ⟨s, hm, s, hs, by simp⟩
  · rintro ⟨x, hx, s, hs, hm⟩
    exact ⟨s, hs, List.mem_singleton.mp hm ▸ hx⟩

theorem Voter.hasFolded_iff_exists {c : TextColumn} :
    v.HasFolded w c values ↔ ∃ x ∈ values, v.HasFolded w c [x] := by
  unfold Voter.HasFolded
  constructor
  · rintro ⟨s, hs, x, hx, he⟩
    exact ⟨x, hx, s, hs, x, by simp, he⟩
  · rintro ⟨x, hx, s, hs, y, hy, he⟩
    exact ⟨s, hs, x, hx, List.mem_singleton.mp hy ▸ he⟩

namespace Dimension

/-- The dimension reads the first of its values only. -/
def readsFirst : Dimension → Bool
  | firstName | lastName | ageMin | ageMax | neverVoted | notVotedSinceYear | radiusFilter => true
  | _ => false

/-- Beside its own values, whether a dimension constrains depends on whether an age range is
selected. -/
theorem constrains_congr {a b : FilterSpec}
    (h : a.has Dimension.ageRange.name = b.has Dimension.ageRange.name) (d : Dimension) :
    d.Constrains a values ↔ d.Constrains b values := by
  cases d <;> simp only [Constrains, h]

/-- Beside its own values, what a dimension asks depends on whether elections are sat out. -/
theorem holds_congr {a b : FilterSpec} (h : a.asksSatOut = b.asksSatOut) (d : Dimension) :
    d.Holds w v year a values ↔ d.Holds w v year b values := by
  cases d <;> simp only [Holds, h]

/-- Only single ages depend on whether an age range is selected. -/
theorem constrains_congr_of_ne {d : Dimension} (hmin : d ≠ .ageMin) (hmax : d ≠ .ageMax)
    (a b : FilterSpec) : d.Constrains a values ↔ d.Constrains b values := by
  cases d
  case ageMin => exact absurd rfl hmin
  case ageMax => exact absurd rfl hmax
  all_goals rfl

/-- Only dates of elections depend on whether elections are sat out. -/
theorem holds_congr_of_ne {d : Dimension} (hdate : d ≠ .electionDate) (a b : FilterSpec) :
    d.Holds w v year a values ↔ d.Holds w v year b values := by
  cases d
  case electionDate => exact absurd rfl hdate
  all_goals rfl

variable {d : Dimension}

/-- A dimension that reads all its values constrains where one of them does. -/
theorem constrains_iff_exists_value (hd : d.readsFirst = false) (hv : values ≠ []) :
    d.Constrains spec values ↔ ∃ x ∈ values, d.Constrains spec [x] := by
  have hany : True ↔ ∃ x ∈ values, True := by simpa using List.exists_mem_of_ne_nil values hv
  cases d
  case exactId | electionParticipation => simp [Constrains]
  case ageRange | scoreRange | income | education | unemployment | electionYear |
      voterEventMethod | residentAddress | redistrictingAffected =>
    simp only [Constrains, List.mem_singleton, exists_eq_left]
  all_goals first | exact hany | cases hd

/-- A dimension that reads all its values asks for one of them, unless it asks to have sat out all
of several elections. -/
theorem holds_iff_exists_value (hd : d.readsFirst = false) (hv : values ≠ [])
    (hsat : d = .electionDate → spec.asksSatOut = false) :
    d.Holds w v year spec values ↔ ∃ x ∈ values, d.Holds w v year spec [x] := by
  have hany : True ↔ ∃ x ∈ values, True := by simpa using List.exists_mem_of_ne_nil values hv
  cases d
  case county | countyPrecinct | municipalPrecinct | status | statusReason | party | gender =>
    exact Voter.hasFolded_iff_exists
  case race => exact Voter.hasFolded_iff_exists.trans (by simp [Holds])
  case congressionalDistrict | stateSenateDistrict | stateHouseDistrict =>
    exact Voter.hasText_iff_exists
  case electionYear =>
    -- The voter's years are named before the value.
    simp only [Holds, List.mem_singleton, exists_eq_left]
    constructor
    · rintro ⟨own, ho, x, hx, hn⟩
      exact ⟨x, hx, own, ho, hn⟩
    · rintro ⟨x, hx, own, ho, hn⟩
      exact ⟨own, ho, x, hx, hn⟩
  case electionDate =>
    simp only [Holds, hsat rfl, Bool.false_eq_true, if_false, List.mem_singleton, exists_eq_left]
  case ageRange | scoreRange | income | education | unemployment | electionType | ballotStyle |
      eventParty | voterEventMethod | residentAddress | redistrictingAffected =>
    simp only [Holds, List.mem_singleton, exists_eq_left]
  all_goals first | exact hany | cases hd

/-- A dimension that reads the first value sets the same condition without the others. -/
theorem predicate?_of_readsFirst (hd : d.readsFirst = true) {a b : FilterSpec}
    (hages : a.has Dimension.ageRange.name = b.has Dimension.ageRange.name) (x : String)
    (xs : List String) : d.predicate? a year (x :: xs) = d.predicate? b year [x] := by
  cases d
  case ageMin | ageMax => simp only [predicate?, agePredicate?, hages, List.headD_cons]
  case firstName | lastName | neverVoted | notVotedSinceYear | radiusFilter => rfl
  all_goals cases hd

end Dimension

/-! ## Filters of one dimension -/

namespace FilterSpec

theorem asksSatOut_congr {a b : FilterSpec} (h : a.get? Dimension.electionParticipation.name =
    b.get? Dimension.electionParticipation.name) : a.asksSatOut = b.asksSatOut := by
  have hfirst := first?_congr h
  simp only [asksSatOut, hfirst]

/-- The filter that selects values of one dimension. -/
def single (d : Dimension) (values : List String) : FilterSpec := ofPairs [(d.name, values)]

variable {d : Dimension}

theorem get?_single (hv : values ≠ []) (name : String) :
    (single d values).get? name = if name = d.name then some values else none := by
  have h : (single d values).get? name = (empty.add d.name values).get? name := rfl
  rw [h, get?_add hv]
  have hempty : empty.get? name = none := rfl
  rw [hempty, Option.getD_none, List.nil_append]

theorem get?_single_of_ne {e : Dimension} (hv : values ≠ []) (h : e ≠ d) :
    (single d values).get? e.name = none := by
  rw [get?_single hv, if_neg fun hn => h (Dimension.name_injective hn)]

theorem exactId?_single (hd : d ≠ .exactId) (hv : values ≠ []) :
    (single d values).exactId? = none := by
  have hg := get?_single_of_ne hv hd.symm
  simp only [exactId?, first?, hg, Option.bind_none]

theorem asksSatOut_single (hd : d ≠ .electionParticipation) (hv : values ≠ []) :
    (single d values).asksSatOut = false := by
  have hg := get?_single_of_ne hv hd.symm
  have hempty : (single d values).asksSatOut = empty.asksSatOut := asksSatOut_congr hg
  rw [hempty]
  decide

theorem has_ageRange_single (hv : values ≠ []) {values' : List String} (hv' : values' ≠ []) :
    (single d values).has Dimension.ageRange.name =
      (single d values').has Dimension.ageRange.name := by
  rw [Bool.eq_iff_iff, has_iff, has_iff, get?_single hv, get?_single hv']
  split <;> simp

/-- The filter of one dimension asks for what the dimension asks, if it constrains at all. -/
theorem selects_single_iff (hd : d ≠ .exactId) (hv : values ≠ []) :
    Selects w v ((single d values).predicate year) ↔
      (d.Constrains (single d values) values →
        d.Holds w v year (single d values) values) := by
  rw [selects_predicate_iff (exactId?_single hd hv)]
  constructor
  · intro h hC
    exact h d values (by rw [get?_single hv, if_pos rfl]) hC
  · intro h e us hg hC
    rw [get?_single hv] at hg
    split at hg
    · next he =>
      obtain rfl := Dimension.name_injective he
      obtain rfl := Option.some.inj hg
      exact h hC
    · cases hg

/-- The filter of one dimension sets a condition exactly if the dimension constrains. -/
theorem constraints_single_ne_nil_iff (hd : d ≠ .exactId) (hv : values ≠ []) :
    (single d values).constraints year ≠ [] ↔ d.Constrains (single d values) values := by
  have hid := exactId?_single hd hv
  have hown : (single d values).get? d.name = some values := by rw [get?_single hv, if_pos rfl]
  constructor
  · intro hne
    obtain ⟨c, hc⟩ := List.exists_mem_of_ne_nil _ hne
    obtain ⟨us, hg, hC⟩ := (exists_constraint_iff hid c.dimension).mp ⟨c, hc, rfl⟩
    by_cases he : c.dimension = d
    · subst he
      obtain rfl := Option.some.inj (hown.symm.trans hg)
      exact hC
    · rw [get?_single_of_ne hv he] at hg
      cases hg
  · intro hC
    obtain ⟨c, hc, -⟩ := (exists_constraint_iff hid d).mpr ⟨values, hown, hC⟩
    exact List.ne_nil_of_mem hc

/-- Where all values are read and each of them sets a condition, the voters of several values are
those of one of them. -/
theorem selects_single_iff_exists (hd : d.readsFirst = false) (hid : d ≠ .exactId)
    (hpart : d ≠ .electionParticipation) (hv : values ≠ [])
    (hC : ∀ x ∈ values, (single d [x]).constraints year ≠ []) :
    Selects w v ((single d values).predicate year) ↔
      ∃ x ∈ values, Selects w v ((single d [x]).predicate year) := by
  have hages (x : String) := has_ageRange_single (d := d) (List.cons_ne_nil x []) hv
  have hsat := asksSatOut_single hpart hv
  have heach : ∀ x ∈ values, (Selects w v ((single d [x]).predicate year) ↔
      d.Holds w v year (single d values) [x]) := by
    intro x hx
    have hx' := (constraints_single_ne_nil_iff hid (List.cons_ne_nil x [])).mp (hC x hx)
    have hsat' := asksSatOut_single hpart (List.cons_ne_nil x [])
    rw [selects_single_iff hid (List.cons_ne_nil x []),
      Dimension.holds_congr (hsat'.trans hsat.symm)]
    exact ⟨fun h => h hx', fun h _ => h⟩
  have hall : d.Constrains (single d values) values := by
    obtain ⟨x, hx⟩ := List.exists_mem_of_ne_nil values hv
    have hx' := (constraints_single_ne_nil_iff hid (List.cons_ne_nil x [])).mp (hC x hx)
    exact (Dimension.constrains_iff_exists_value hd hv).mpr
      ⟨x, hx, (Dimension.constrains_congr (hages x) d).mp hx'⟩
  calc Selects w v ((single d values).predicate year)
      ↔ d.Holds w v year (single d values) values :=
        (selects_single_iff hid hv).trans ⟨fun h => h hall, fun h _ => h⟩
    _ ↔ ∃ x ∈ values, d.Holds w v year (single d values) [x] :=
        Dimension.holds_iff_exists_value hd hv fun _ => hsat
    _ ↔ ∃ x ∈ values, Selects w v ((single d [x]).predicate year) :=
        exists_congr fun x => and_congr_right fun hx => (heach x hx).symm

/-- Where the first value is read, the others change nothing. -/
theorem predicate_single_of_readsFirst (hd : d.readsFirst = true) (x : String)
    (xs : List String) : (single d (x :: xs)).predicate year = (single d [x]).predicate year := by
  have hid : d ≠ .exactId := by
    rintro rfl
    cases hd
  have hv : x :: xs ≠ [] := List.cons_ne_nil x xs
  have hentry (ys : List String) : (single d (x :: ys)).constraints year =
      ((d.predicate? (single d (x :: ys)) year (x :: ys)).map (Constraint.mk d)).toList := by
    have hentries : (single d (x :: ys)).entries = [(d.name, x :: ys)] := rfl
    simp only [constraints, exactId?_single hid (List.cons_ne_nil x ys), hentries,
      List.filterMap_cons, List.filterMap_nil, Dimension.ofName?_name, Option.bind_some]
    cases d.predicate? (single d (x :: ys)) year (x :: ys) <;> rfl
  have hages := has_ageRange_single (d := d) hv (List.cons_ne_nil x [])
  rw [predicate, predicate, hentry xs, hentry [],
    Dimension.predicate?_of_readsFirst hd hages x xs]

/-- The values of a dimension are alternatives if all of them are read and each of them sets a
condition. A dimension that reads the first value asks for that value alone; for voters who never
voted it is no matter which one is read. -/
theorem alternatives (d : Dimension) (hid : d ≠ .exactId) (hpart : d ≠ .electionParticipation)
    (x : String) (xs : List String) (year : Int) :
    (d.readsFirst = false ∨ d = .neverVoted →
      (∀ y ∈ x :: xs, (single d [y]).constraints year ≠ []) → ∀ w v,
      (((single d (x :: xs)).predicate year).eval w v = .yes ↔
        ∃ y ∈ x :: xs, ((single d [y]).predicate year).eval w v = .yes)) ∧
    (d.readsFirst = true →
      (single d (x :: xs)).predicate year = (single d [x]).predicate year) := by
  refine ⟨?_, fun hd => predicate_single_of_readsFirst hd x xs⟩
  rintro (hd | rfl) hC w v
  · exact selects_single_iff_exists hd hid hpart (List.cons_ne_nil x xs) hC
  · rw [predicate_single_of_readsFirst rfl]
    constructor
    · exact fun h => ⟨x, List.mem_cons_self, h⟩
    · rintro ⟨y, hy, h⟩
      -- Every value that sets a condition sets the same one.
      have hask := (constraints_single_ne_nil_iff hid (List.cons_ne_nil y [])).mp (hC y hy)
      have hlast : v.lastVote = none :=
        (selects_single_iff hid (List.cons_ne_nil y [])).mp h hask
      exact (selects_single_iff hid (List.cons_ne_nil x [])).mpr fun _ => hlast

/-- A voter of whom only the first name and the last election are kept. -/
def bob : Voter :=
  { (default : Voter) with
    text := fun
      | .firstName => some "BOB"
      | _ => none
    electionYears := some [some 2022] }

/-- Two years of elections are alternatives, and of two first names the first one counts. -/
theorem alternatives_electionYear :
    (∀ y ∈ ["2020", " 2022 "], (single .electionYear [y]).constraints 2024 ≠ []) ∧
    ((single .electionYear ["2020", " 2022 "]).predicate 2024).eval default bob = .yes ∧
    (single .firstName ["Ann", "Bob"]).predicate 2024 =
      (single .firstName ["Ann"]).predicate 2024 := by
  have hread : ∀ y ∈ ["2020", " 2022 "], (Number.readInteger? y).isSome := by decide
  have hC : ∀ y ∈ ["2020", " 2022 "], (single .electionYear [y]).constraints 2024 ≠ [] := by
    intro y hy
    rw [constraints_single_ne_nil_iff (by decide) (List.cons_ne_nil y [])]
    exact ⟨y, List.mem_singleton_self y, hread y hy⟩
  have hyear := (alternatives .electionYear (by decide) (by decide) "2020" [" 2022 "] 2024).1
    (.inl rfl) hC default bob
  have hname := (alternatives .firstName (by decide) (by decide) "Ann" ["Bob"] 2024).2 rfl
  exact ⟨hC, hyear.mpr ⟨" 2022 ", by simp, by decide⟩, hname⟩

/-- Each of two first names sets a condition, and one voter is selected by the second name alone,
but not by both names. -/
theorem not_alternatives_firstName :
    (∀ x ∈ ["Ann", "Bob"], (single .firstName [x]).constraints 2024 ≠ []) ∧
    ((single .firstName ["Bob"]).predicate 2024).eval
      { (default : World) with upper := Text.upper } bob = .yes ∧
    ((single .firstName ["Ann", "Bob"]).predicate 2024).eval
      { (default : World) with upper := Text.upper } bob ≠ .yes := by
  refine ⟨by simp [constraints_single_ne_nil_iff, Dimension.Constrains], by decide, by decide⟩

end FilterSpec

end Electorate
