import Electorate.Proofs.Alternatives
import Electorate.Proofs.RegistrationNumber

/-!
# Requests whose case is raised or kept

The list of voters raises the case of values that the voter file keeps in upper case, charts keep
it for their labels. Both select the same voters.

* `normalizeValue_raised`: what raising changes of one value.
* `FilterSpec.Raises`: two filters of which the first has the values of the second in upper case.
  Selecting one more value keeps them so, and a request too (`Raises.select`, `Raises.foldlM`).
* `Dimension.holds_upper_iff`: a value and its upper case ask the same of a row.
* `FilterSpec.sameRows_ofParams`: with case raised and kept, a request is refused for the same
  reason, or selects the same voters by the same dimensions.
-/

namespace Electorate

open Electorate.Sql Electorate.Sql.Predicate

/-! ## Values -/

/-- Raising case changes the spelling of a value that is selected, and nothing else. -/
theorem normalizeValue_raised (name value : String) :
    normalizeValue name value true =
      (normalizeValue name value false).map (Option.map (respelled name)) := by
  have hsame {d : Dimension} (hd : d.foldsCase = false) : Option.map (respelled d.name) = id := by
    rw [respelled_of_not_keepsUpper ((keepsUpper_name d).trans hd), Option.map_id]
  by_cases haddress : name = Dimension.residentAddress.name
  · rw [haddress, normalizeValue_residentAddress, normalizeValue_residentAddress, hsame rfl]
    rfl
  by_cases hid : name = Dimension.exactId.name
  · rw [hid, normalizeValue_exactId, normalizeValue_exactId, hsame rfl]
    split
    · rfl
    · cases registrationNumber (Text.strip value) <;> rfl
  · rw [normalizeValue_text haddress hid, normalizeValue_text haddress hid]
    split <;> rfl

/-! ## Filters -/

namespace FilterSpec

variable {a b : FilterSpec}

/-- The first filter has the values of the second, in upper case where they are kept so. -/
structure Raises (a b : FilterSpec) : Prop where
  names : a.names = b.names
  same : ∀ name, keepsUpper name = false → a.get? name = b.get? name
  /-- Spellings of one value are one value of the first filter. -/
  mem_iff : ∀ name, keepsUpper name = true → ∀ y,
    y ∈ (a.get? name).getD [] ↔ ∃ x ∈ (b.get? name).getD [], Text.upper x = y

theorem Raises.refl_empty : Raises empty empty where
  names := rfl
  same := fun _ _ => rfl
  mem_iff := fun name _ y => by
    have hnone : empty.get? name = none := rfl
    simp [hnone]

/-- Both filters select one more value. -/
theorem Raises.select (h : Raises a b) (name x : String) :
    Raises (a.select name (respelled name x)) (b.select name x) where
  names := by rw [names_select, names_select, h.names]
  same := fun k hk => by
    rw [get?_select, get?_select]
    by_cases hkn : k = name
    · subst hkn
      rw [respelled_of_not_keepsUpper hk, h.same k hk]
      rfl
    · rw [if_neg hkn, if_neg hkn, h.same k hk]
  mem_iff := fun k hk y => by
    have hold := h.mem_iff k hk y
    rw [mem_select_iff, hold]
    constructor
    · rintro (⟨x', hx', rfl⟩ | ⟨rfl, rfl⟩)
      · exact ⟨x', mem_select_iff.mpr (.inl hx'), rfl⟩
      · exact ⟨x, mem_select_iff.mpr (.inr ⟨rfl, rfl⟩), by rw [respelled_of_keepsUpper hk]⟩
    · rintro ⟨x', hx', rfl⟩
      rcases mem_select_iff.mp hx' with hx' | ⟨rfl, rfl⟩
      · exact .inl ⟨x', hx', rfl⟩
      · exact .inr ⟨rfl, by rw [respelled_of_keepsUpper hk]⟩

/-- Two readings of a request: both are refused for one reason, or the first raises the second. -/
inductive Agree : Except FilterError FilterSpec → Except FilterError FilterSpec → Prop
  | error (e : FilterError) : Agree (.error e) (.error e)
  | ok {a b : FilterSpec} (h : Raises a b) : Agree (.ok a) (.ok b)

/-- One parameter is read alike. -/
theorem Raises.addParam (h : Raises a b) (allowed ignored : List String)
    (param : String × String) :
    Agree (addParam allowed ignored true a param) (addParam allowed ignored false b param) := by
  obtain ⟨name, value⟩ := param
  simp only [FilterSpec.addParam]
  split
  · exact .ok h
  · split
    · exact .error _
    · rw [normalizeValue_raised]
      cases normalizeValue name value false with
      | error e => exact .error e
      | ok o =>
        cases o with
        | none => exact .ok h
        | some x => exact .ok (h.select name x)

/-- Parameters are read alike, one after the other. -/
theorem Raises.foldlM (h : Raises a b) (allowed ignored : List String)
    (params : List (String × String)) :
    Agree (params.foldlM (FilterSpec.addParam allowed ignored true) a)
      (params.foldlM (FilterSpec.addParam allowed ignored false) b) := by
  induction params generalizing a b with
  | nil => exact .ok h
  | cons param params ih =>
    rw [List.foldlM_cons, List.foldlM_cons]
    have hstep := h.addParam allowed ignored param
    generalize FilterSpec.addParam allowed ignored true a param = r at hstep
    generalize FilterSpec.addParam allowed ignored false b param = r' at hstep
    cases hstep with
    | error e => exact .error e
    | ok hnext => exact ih hnext

end FilterSpec

/-! ## What is asked of a row -/

variable {w : World} {v : Voter} {year : Int} {spec : FilterSpec} {x : String}

theorem Voter.hasFolded_upper_iff {c : TextColumn} :
    v.HasFolded w c [Text.upper x] ↔ v.HasFolded w c [x] := by
  simp only [Voter.HasFolded, List.mem_singleton, exists_eq_left, Text.upper_upper]

namespace Dimension

variable {d : Dimension}

theorem readsFirst_of_foldsCase (h : d.foldsCase = true) : d.readsFirst = false := by
  cases d <;> first | rfl | cases h

theorem constrains_of_foldsCase (h : d.foldsCase = true) (values : List String) :
    d.Constrains spec values := by
  cases d <;> trivial

/-- A value and its upper case ask the same of a row. -/
theorem holds_upper_iff (h : d.foldsCase = true) :
    d.Holds w v year spec [Text.upper x] ↔ d.Holds w v year spec [x] := by
  cases d
  case county | status | statusReason | party | gender => exact Voter.hasFolded_upper_iff
  case race => simp only [Holds, List.map_cons, List.map_nil, raceStoreValue_upper]
  case electionType | eventParty =>
    simp only [Holds, List.mem_singleton, exists_eq_left, Text.upper_upper]
  all_goals cases h

end Dimension

/-! ## The same voters -/

namespace FilterSpec

variable {a b : FilterSpec}

theorem Raises.has_eq (h : Raises a b) (name : String) : a.has name = b.has name := by
  rw [has, has, h.names]

theorem Raises.exactId?_eq (h : Raises a b) : a.exactId? = b.exactId? :=
  exactId?_congr (h.same _ (by decide))

theorem Raises.asksSatOut_eq (h : Raises a b) : a.asksSatOut = b.asksSatOut :=
  asksSatOut_congr (h.same _ (by decide))

/-- Values of a dimension that are kept in upper case ask the same of a row in both filters. -/
theorem Raises.holds_iff_of_foldsCase (h : Raises a b) {d : Dimension} (hd : d.foldsCase = true)
    {xs ys : List String} (hxs : a.get? d.name = some xs) (hys : b.get? d.name = some ys) :
    d.Holds w v year a xs ↔ d.Holds w v year b ys := by
  have hread := Dimension.readsFirst_of_foldsCase hd
  have hdate (c : FilterSpec) : d = .electionDate → c.asksSatOut = false := by
    rintro rfl
    cases hd
  have hmem := h.mem_iff d.name ((keepsUpper_name d).trans hd)
  rw [hxs, hys] at hmem
  rw [Dimension.holds_iff_exists_value hread (ne_nil_of_get? hxs) (hdate a),
    Dimension.holds_iff_exists_value hread (ne_nil_of_get? hys) (hdate b)]
  simp only [Dimension.holds_congr h.asksSatOut_eq]
  constructor
  · rintro ⟨_, hx, hh⟩
    obtain ⟨y, hy, rfl⟩ := (hmem _).mp hx
    exact ⟨y, hy, (Dimension.holds_upper_iff hd).mp hh⟩
  · rintro ⟨y, hy, hh⟩
    exact ⟨Text.upper y, (hmem _).mpr ⟨y, hy, rfl⟩, (Dimension.holds_upper_iff hd).mpr hh⟩

/-- Where names agree, so does whether they select anything. -/
theorem Raises.isSome_get? (h : Raises a b) (name : String) :
    (a.get? name).isSome ↔ (b.get? name).isSome := by
  rw [Option.isSome_iff_exists, Option.isSome_iff_exists, ← mem_names_iff, ← mem_names_iff, h.names]

/-- What one dimension asks is the same in both filters. -/
theorem Raises.dimension_iff (h : Raises a b) (d : Dimension) :
    (∀ values, a.get? d.name = some values → d.Constrains a values →
      d.Holds w v year a values) ↔
    ∀ values, b.get? d.name = some values → d.Constrains b values →
      d.Holds w v year b values := by
  cases hd : d.foldsCase with
  | false =>
    rw [h.same d.name ((keepsUpper_name d).trans hd)]
    simp only [Dimension.constrains_congr (h.has_eq _), Dimension.holds_congr h.asksSatOut_eq]
  | true =>
    -- Both filters have values under the name, though they may have different numbers of them.
    constructor
    · intro hall ys hys _
      obtain ⟨xs, hxs⟩ := Option.isSome_iff_exists.mp
        ((h.isSome_get? d.name).mpr (Option.isSome_of_eq_some hys))
      exact (h.holds_iff_of_foldsCase hd hxs hys).mp
        (hall xs hxs (Dimension.constrains_of_foldsCase hd xs))
    · intro hall xs hxs _
      obtain ⟨ys, hys⟩ := Option.isSome_iff_exists.mp
        ((h.isSome_get? d.name).mp (Option.isSome_of_eq_some hxs))
      exact (h.holds_iff_of_foldsCase hd hxs hys).mpr
        (hall ys hys (Dimension.constrains_of_foldsCase hd ys))

/-- Both filters select the same voters. -/
theorem Raises.selects_iff (h : Raises a b) :
    Selects w v (a.predicate year) ↔ Selects w v (b.predicate year) := by
  cases hid : a.exactId? with
  | some id =>
    rw [predicate_of_exactId? hid, predicate_of_exactId? (h.exactId?_eq ▸ hid)]
  | none =>
    rw [selects_predicate_iff hid, selects_predicate_iff (h.exactId?_eq ▸ hid)]
    exact forall_congr' h.dimension_iff

/-- With case raised and with case kept, a request is refused for the same reason, or it selects
the same voters by the same dimensions in the same order. An alias of the table changes how a
condition is written, not the rows that it selects. -/
theorem sameRows_ofParams (params : List (String × String)) (allowed ignored : List String) :
    (∃ e, ofParams params allowed ignored true = .error e ∧
      ofParams params allowed ignored false = .error e) ∨
    ∃ raised kept, ofParams params allowed ignored true = .ok raised ∧
      ofParams params allowed ignored false = .ok kept ∧
      raised.names = kept.names ∧
      ∀ w v year, (raised.predicate year).eval w v = .yes ↔
        (kept.predicate year).eval w v = .yes := by
  have hagree := Raises.refl_empty.foldlM allowed ignored params
  unfold ofParams
  generalize params.foldlM (addParam allowed ignored true) empty = r at hagree
  generalize params.foldlM (addParam allowed ignored false) empty = r' at hagree
  cases hagree with
  | error e => exact .inl ⟨e, rfl, rfl⟩
  | ok h => exact .inr ⟨_, _, rfl, rfl, h.names, fun _ _ _ => h.selects_iff⟩

end FilterSpec

end Electorate
