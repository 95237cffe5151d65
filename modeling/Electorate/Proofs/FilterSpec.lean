import Electorate.Filter.Combination
import Electorate.Filter.Extract
import Electorate.Proofs.Entries
import Mathlib.Data.List.DropRight

/-!
# Reading specifications

What a name selects, after the operations that build specifications.

* `Dimension.ofName?_eq_some_iff`: a name stands for the dimension of that name.
* `get?_eq_some_iff`: what a name selects is its entry, since no name has two.
* `entries_eq`, `eq_of_get?`: a filter is told by its names and what they select.
* `get?_restrict`, `get?_without`, `get?_add`, `get?_merge`, `get?_select`: what a name selects
  afterwards; `names_add`, `names_select`: the names in order.
* `exactId?_congr`: the registration number that is asked for depends on one name only.
* `Text.strip_strip`, `exactId?_eq_some_iff`: it has no blanks at its ends.
-/

namespace Electorate

/-! ## Blanks -/

namespace Text

theorem trimBlanks_eq (cs : List Char) :
    trimBlanks cs = (cs.dropWhile isBlank).rdropWhile isBlank := rfl

theorem trimBlanks_trimBlanks (cs : List Char) : trimBlanks (trimBlanks cs) = trimBlanks cs := by
  have hfront : (trimBlanks cs).dropWhile isBlank = trimBlanks cs := by
    rw [trimBlanks_eq, List.dropWhile_eq_self_iff]
    intro hl
    have hp := List.rdropWhile_prefix isBlank (cs.dropWhile isBlank)
    rw [hp.getElem hl]
    exact List.dropWhile_eq_self_iff.mp (List.dropWhile_idempotent _ _) _
  rw [trimBlanks_eq (trimBlanks cs), hfront, trimBlanks_eq, List.rdropWhile_idempotent]

theorem strip_strip (s : String) : strip (strip s) = strip s := by
  simp only [strip, String.toList_ofList, trimBlanks_trimBlanks]

end Text

/-! ## Names -/

@[simp] theorem Dimension.ofName?_name (d : Dimension) : ofName? d.name = some d := by
  cases d <;> decide

theorem Dimension.ofName?_eq_some_iff {d : Dimension} {name : String} :
    ofName? name = some d ↔ d.name = name := by
  constructor
  · intro h
    simpa using List.find?_some h
  · rintro rfl
    exact ofName?_name d

theorem Dimension.name_injective {d e : Dimension} (h : d.name = e.name) : d = e := by
  have hd := ofName?_name d
  rw [h, ofName?_name] at hd
  exact (Option.some.inj hd).symm

/-! ## What is selected -/

namespace FilterSpec

variable {spec : FilterSpec} {name : String} {values : List String}

theorem get?_eq_some_iff : spec.get? name = some values ↔ (name, values) ∈ spec.entries :=
  lookup_eq_some_iff spec.names_nodup

theorem ne_nil_of_get? (h : spec.get? name = some values) : values ≠ [] :=
  spec.values_ne_nil _ (get?_eq_some_iff.mp h)

theorem mem_names_iff : name ∈ spec.names ↔ ∃ values, spec.get? name = some values := by
  simp [names, get?_eq_some_iff]

theorem has_iff : spec.has name = true ↔ ∃ values, spec.get? name = some values := by
  rw [has, List.contains_iff_mem, mem_names_iff]

theorem get?_eq_none_of_has (h : spec.has name = false) : spec.get? name = none := by
  rw [Option.eq_none_iff_forall_ne_some]
  intro values hg
  rw [has_iff.mpr ⟨values, hg⟩] at h
  cases h

/-- A filter is told by its names and what they select. -/
theorem entries_eq (spec : FilterSpec) :
    spec.entries = spec.names.map fun name => (name, (spec.get? name).getD []) := by
  rw [names, List.map_map]
  refine (List.map_id _).symm.trans (List.map_congr_left fun e he => ?_)
  have hget : spec.get? e.1 = some e.2 := get?_eq_some_iff.mpr he
  simp [hget]

theorem eq_of_entries {a b : FilterSpec} (h : a.entries = b.entries) : a = b := by
  obtain ⟨entries, _, _⟩ := a
  obtain ⟨entries', _, _⟩ := b
  obtain rfl : entries = entries' := h
  rfl

theorem eq_of_get? {a b : FilterSpec} (hnames : a.names = b.names)
    (hget : ∀ name, a.get? name = b.get? name) : a = b := by
  refine eq_of_entries ?_
  rw [a.entries_eq, b.entries_eq, hnames]
  exact List.map_congr_left fun name _ => by rw [hget]

theorem first?_congr {a b : FilterSpec} (h : a.get? name = b.get? name) :
    a.first? name = b.first? name := by
  rw [first?, h, first?]

theorem exactId?_congr {a b : FilterSpec}
    (h : a.get? Dimension.exactId.name = b.get? Dimension.exactId.name) :
    a.exactId? = b.exactId? := by
  rw [exactId?, first?_congr h, exactId?]

theorem exactId?_eq_some_iff {id : String} :
    spec.exactId? = some id ↔ ∃ value, spec.first? Dimension.exactId.name = some value ∧
      Text.strip value = id ∧ id ≠ "" := by
  unfold exactId?
  cases spec.first? Dimension.exactId.name with
  | none => simp
  | some value =>
    simp only [Option.some.injEq, exists_eq_left', String.isEmpty_iff]
    by_cases hblank : Text.strip value = ""
    · rw [if_pos hblank, hblank]
      exact ⟨nofun, fun he => absurd he.1.symm he.2⟩
    · rw [if_neg hblank, Option.some.injEq]
      exact ⟨fun he => ⟨he, he ▸ hblank⟩, And.left⟩

/-! ## Selection by name -/

theorem get?_restrict (wanted : List String) :
    (spec.restrict wanted).get? name = if name ∈ wanted then spec.get? name else none := by
  show (spec.entries.filter fun e => wanted.contains e.1).lookup name = _
  rw [lookup_filter_fst, get?]
  by_cases hm : name ∈ wanted <;> simp [hm]

theorem get?_without (dropped : List String) :
    (spec.without dropped).get? name = if name ∈ dropped then none else spec.get? name := by
  show (spec.entries.filter fun e => !dropped.contains e.1).lookup name = _
  rw [lookup_filter_fst (fun k => !dropped.contains k), get?]
  by_cases hm : name ∈ dropped <;> simp [hm]

/-! ## Addition and replacement -/

theorem lookup_addTo (k : String) (l : List (String × List String)) :
    (addTo name values l).lookup k =
      if k = name then some ((l.lookup k).getD [] ++ values) else l.lookup k := by
  rw [addTo, Entries.lookup_change]
  by_cases h : k = name
  · subst h
    rw [if_pos rfl, if_pos rfl]
    cases l.lookup k <;> rfl
  · rw [if_neg h, if_neg h]

theorem names_add (hv : values ≠ []) : (spec.add name values).names =
    if name ∈ spec.names then spec.names else spec.names ++ [name] := by
  rw [add, dif_neg hv]
  exact Entries.keys_change name values _ spec.entries

theorem get?_add (hv : values ≠ []) (k : String) :
    (spec.add name values).get? k =
      if k = name then some ((spec.get? k).getD [] ++ values) else spec.get? k := by
  rw [add, dif_neg hv]
  exact lookup_addTo k spec.entries

/-- The last replacement of a name counts. -/
theorem lookup_mergedEntries (k : String) (l override : List (String × List String)) :
    (mergedEntries l override).lookup k = (override.reverse.lookup k).or (l.lookup k) :=
  Entries.lookup_foldl_put override l k

theorem get?_merge (override : List (String × List String)) :
    (spec.merge override).get? name =
      ((override.reverse.lookup name).or (spec.get? name)).filter (!·.isEmpty) := by
  rw [get?, get?, ← lookup_mergedEntries, merge]
  have hn : ((mergedEntries spec.entries override).map Prod.fst).Nodup :=
    mergedEntries_nodup spec.names_nodup
  apply Option.ext
  intro vs
  rw [Option.filter_eq_some_iff, lookup_eq_some_iff hn,
    lookup_eq_some_iff (hn.sublist (List.filter_sublist.map _)), List.mem_filter]

/-- No name is without a value, so that none is lost where those without are dropped. -/
theorem filter_get? (spec : FilterSpec) (name : String) :
    (spec.get? name).filter (!·.isEmpty) = spec.get? name := by
  cases h : spec.get? name with
  | none => rfl
  | some values => simp [Option.filter, ne_nil_of_get? h]

/-! ## One more value -/

theorem names_select (spec : FilterSpec) (name value : String) :
    (spec.select name value).names =
      if name ∈ spec.names then spec.names else spec.names ++ [name] := by
  unfold select
  split
  · next hc =>
    have hmem : name ∈ spec.names := by
      rw [mem_names_iff]
      cases hg : spec.get? name with
      | none => simp [hg] at hc
      | some values => exact ⟨values, rfl⟩
    rw [if_pos hmem]
  · exact names_add (List.cons_ne_nil _ _)

/-- One more value of a name stands behind those that it has, once. -/
theorem get?_select (spec : FilterSpec) (name value k : String) :
    (spec.select name value).get? k =
      if k = name then
        some (if value ∈ (spec.get? name).getD [] then (spec.get? name).getD []
          else (spec.get? name).getD [] ++ [value])
      else spec.get? k := by
  unfold select
  split
  · -- A value that is there already leaves the filter as it is.
    next hc =>
    rw [List.contains_iff_mem] at hc
    rw [if_pos hc]
    split
    · next hk =>
      subst hk
      cases hg : spec.get? k with
      | none => simp [hg] at hc
      | some values => rfl
    · rfl
  · next hc =>
    rw [List.contains_iff_mem] at hc
    rw [get?_add (List.cons_ne_nil _ _), if_neg hc]
    split
    · next hk => rw [hk]
    · rfl

theorem mem_select_iff {value k y : String} : y ∈ ((spec.select name value).get? k).getD [] ↔
    y ∈ (spec.get? k).getD [] ∨ (k = name ∧ y = value) := by
  rw [get?_select]
  by_cases hk : k = name
  · subst hk
    rw [if_pos rfl, Option.getD_some]
    split
    · next hmem =>
      refine ⟨.inl, ?_⟩
      rintro (hy | ⟨-, rfl⟩)
      · exact hy
      · exact hmem
    · simp
  · simp [hk]

end FilterSpec

/-! ## Combinations as replacements -/

namespace Combination

variable {c : Combination}

/-- A combination of different names is its own table of values. -/
theorem filters_eq (h : (c.assignments.map Prod.fst).Nodup) : c.filters = c.assignments :=
  Entries.foldl_put h

/-- What a combination puts in place of a name's values. -/
theorem lookup_override (h : (c.assignments.map Prod.fst).Nodup) (name : String) :
    c.override.reverse.lookup name = (c.assignments.lookup name).map ([·]) := by
  have hm : c.override = c.assignments.map fun e => (e.1, [e.2]) := by
    rw [override, filters_eq h]
  have hn : (c.override.map Prod.fst).Nodup := by
    simpa [hm, List.map_map, Function.comp_def] using h
  rw [lookup_reverse hn]
  apply Option.ext
  intro vs
  rw [lookup_eq_some_iff hn, Option.map_eq_some_iff, hm, List.mem_map]
  constructor
  · rintro ⟨⟨k, a⟩, he, hk⟩
    cases hk
    exact ⟨a, (lookup_eq_some_iff h).mpr he, rfl⟩
  · rintro ⟨a, ha, rfl⟩
    exact ⟨(name, a), (lookup_eq_some_iff h).mp ha, rfl⟩

end Combination

end Electorate
