import Electorate.Proofs.Extraction
import Mathlib.Data.List.Perm.Subperm

/-!
# The algebra of filters

A filter is built from pairs of names and values, changed by putting values in place of others, and
split by names. It is an ordered table, so all laws are laws of its names in order and of what they
select.

* `FilterSpec.Collects`: what pairs give, each name at its first place that comes with values
  (`collects_ofPairs`).
* `FilterSpec.Overrides`: what putting values in place of others gives (`overrides_merge`).
  For a filter that overrides another one, `names_merge_entries` and `get?_merge_entries`, and from
  these the laws `merge_assoc`, `merge_self`, `merge_empty` and `empty_merge`.
* `FilterSpec.Splits`: what selection by names gives (`splits_restrict_without`).
* `FilterSpec.sameAs_iff`: the same values under the same names, in any order.
* `FilterSpec.orderedTable_laws`: all of them together.
-/

namespace Electorate

namespace FilterSpec

variable {pairs override : List (String × List String)} {a b spec : FilterSpec}

/-! ## Pairs of names and values -/

/-- The values that pairs give under a name, in order. -/
def given (pairs : List (String × List String)) (name : String) : List String :=
  (pairs.filter (·.1 = name)).flatMap Prod.snd

/-- A filter has the names for which pairs give values, in the order of the first pair of each that
is not without values, and under each name all values that are given. -/
structure Collects (pairs : List (String × List String)) (spec : FilterSpec) : Prop where
  names : spec.names = distinct ((pairs.filter (·.2 ≠ [])).map Prod.fst)
  values : ∀ name, (spec.get? name).getD [] = given pairs name

theorem collects_empty : Collects [] empty where
  names := rfl
  values := fun _ => rfl

theorem given_append_singleton (pairs : List (String × List String)) (name k : String)
    (values : List String) :
    given (pairs ++ [(name, values)]) k =
      if k = name then given pairs k ++ values else given pairs k := by
  unfold given
  rw [List.filter_append, List.flatMap_append]
  by_cases hk : k = name
  · subst hk
    simp
  · simp [hk, Ne.symm hk]

/-- One more pair adds its values behind those that its name has. -/
theorem Collects.add (h : Collects pairs spec) (name : String) (values : List String) :
    Collects (pairs ++ [(name, values)]) (spec.add name values) := by
  by_cases hv : values = []
  · subst hv
    have hadd : spec.add name [] = spec := dif_pos rfl
    have hlast : [(name, [])].filter (fun e : String × List String => decide (e.2 ≠ [])) = [] :=
      rfl
    refine ⟨?_, fun k => ?_⟩
    · rw [hadd, h.names, List.filter_append, hlast, List.append_nil]
    · rw [hadd, h.values, given_append_singleton, List.append_nil, ite_self]
  · have hlast : [(name, values)].filter (fun e => decide (e.2 ≠ [])) = [(name, values)] := by
      simp [hv]
    refine ⟨?_, fun k => ?_⟩
    · rw [names_add hv, List.filter_append, hlast, List.map_append, List.map_singleton,
        distinct_append_singleton, h.names]
      simp only [mem_distinct]
    · rw [get?_add hv, given_append_singleton, ← h.values]
      split
      · next hk => rw [Option.getD_some, hk]
      · rfl

theorem Collects.foldl_add {done : List (String × List String)} (h : Collects done spec)
    (pairs : List (String × List String)) :
    Collects (done ++ pairs) (pairs.foldl (fun spec e => spec.add e.1 e.2) spec) := by
  induction pairs generalizing done spec with
  | nil => simpa using h
  | cons e pairs ih => simpa using ih (h.add e.1 e.2)

theorem collects_ofPairs (pairs : List (String × List String)) : Collects pairs (ofPairs pairs) :=
  collects_empty.foldl_add pairs

theorem Collects.get?_of_mem (h : Collects pairs spec) {name : String} (hname : name ∈ spec.names) :
    spec.get? name = some (given pairs name) := by
  obtain ⟨values, hget⟩ := mem_names_iff.mp hname
  rw [← h.values, hget, Option.getD_some]

/-! ## Values in place of others -/

/-- The names of a list keep their places, and those that are new come behind them. -/
theorem names_mergedEntries {l : List (String × List String)}
    (h : (override.map Prod.fst).Nodup) : (mergedEntries l override).map Prod.fst =
      l.map Prod.fst ++ (override.map Prod.fst).filter (· ∉ l.map Prod.fst) := by
  induction override generalizing l with
  | nil => simp [mergedEntries]
  | cons e override ih =>
    obtain ⟨name, values⟩ := e
    obtain ⟨hnew, hrest⟩ := List.nodup_cons.mp h
    have hstep : mergedEntries l ((name, values) :: override) =
        mergedEntries (Entries.put name values l) override := rfl
    rw [hstep, ih hrest, Entries.keys_put, List.map_cons]
    by_cases hname : name ∈ l.map Prod.fst
    · rw [if_pos hname, List.filter_cons_of_neg (by simpa using hname)]
    · -- The name is not put twice, so that it may count among the old ones from here on.
      have hothers : (override.map Prod.fst).filter (· ∉ l.map Prod.fst ++ [name]) =
          (override.map Prod.fst).filter (· ∉ l.map Prod.fst) := by
        refine List.filter_congr fun k hk => ?_
        have hne : k ≠ name := by
          rintro rfl
          exact hnew hk
        simp [hne]
      rw [if_neg hname, List.filter_cons_of_pos (by simpa using hname), hothers,
        List.append_assoc, List.singleton_append]

/-- A filter after values were put in place of others: its names keep their places, new ones come
behind them in their order, and a name for which no values are put is gone. -/
structure Overrides (spec : FilterSpec) (override : List (String × List String))
    (next : FilterSpec) : Prop where
  names : next.names = (spec.names ++ (override.map Prod.fst).filter (· ∉ spec.names)).filter
    (override.lookup · ≠ some [])
  values : ∀ name ∈ next.names, next.get? name = (override.lookup name).or (spec.get? name)

/-- Where no name occurs twice, the names with values are told by looking them up. -/
theorem names_filter_values {l : List (String × List String)} (h : (l.map Prod.fst).Nodup) :
    (l.filter fun e => !e.2.isEmpty).map Prod.fst =
      (l.map Prod.fst).filter (l.lookup · ≠ some []) := by
  rw [List.filter_map]
  congr 1
  refine List.filter_congr fun e he => ?_
  have hlookup : l.lookup e.1 = some e.2 := (lookup_eq_some_iff h).mpr he
  simp only [Function.comp_apply, hlookup]
  cases e.2 <;> simp

theorem overrides_merge (spec : FilterSpec) (h : (override.map Prod.fst).Nodup) :
    Overrides spec override (spec.merge override) := by
  have hlookup (name : String) : (mergedEntries spec.entries override).lookup name =
      (override.lookup name).or (spec.get? name) := by
    rw [lookup_mergedEntries, lookup_reverse h, get?]
  refine ⟨?_, fun name hname => ?_⟩
  · have hnames : (spec.merge override).names =
        ((mergedEntries spec.entries override).map Prod.fst).filter
          ((mergedEntries spec.entries override).lookup · ≠ some []) :=
      names_filter_values (mergedEntries_nodup spec.names_nodup)
    rw [hnames, names_mergedEntries h]
    refine List.filter_congr fun name _ => ?_
    -- What a name has from the filter itself are some values.
    rw [hlookup]
    cases override.lookup name with
    | some values => rfl
    | none =>
      rw [Option.none_or]
      cases hget : spec.get? name with
      | none => simp
      | some values => simp [ne_nil_of_get? hget]
  · obtain ⟨values, hget⟩ := mem_names_iff.mp hname
    rw [hget, eq_comm]
    rw [get?_merge, lookup_reverse h] at hget
    exact (Option.filter_eq_some_iff.mp hget).1

/-! ## Filters in place of others -/

theorem lookup_entries_ne (spec : FilterSpec) (name : String) :
    spec.entries.lookup name ≠ some [] :=
  fun h => ne_nil_of_get? h rfl

theorem names_merge_entries (a b : FilterSpec) :
    (a.merge b.entries).names = a.names ++ b.names.filter (· ∉ a.names) := by
  rw [(overrides_merge a b.names_nodup).names, List.filter_eq_self.mpr]
  · rfl
  · exact fun name _ => decide_eq_true (lookup_entries_ne b name)

theorem get?_merge_entries (a b : FilterSpec) (name : String) :
    (a.merge b.entries).get? name = (b.get? name).or (a.get? name) := by
  rw [get?_merge, lookup_reverse b.names_nodup]
  show ((b.get? name).or (a.get? name)).filter (!·.isEmpty) = _
  cases hget : b.get? name with
  | none => rw [Option.none_or, filter_get?]
  | some values =>
    rw [Option.some_or, ← hget]
    exact filter_get? b name

theorem merge_empty (a : FilterSpec) : a.merge empty.entries = a := by
  refine eq_of_get? ?_ fun name => ?_
  · rw [names_merge_entries]
    exact List.append_nil _
  · rw [get?_merge_entries]
    rfl

theorem empty_merge (a : FilterSpec) : empty.merge a.entries = a := by
  refine eq_of_get? ?_ fun name => ?_
  · rw [names_merge_entries, List.filter_eq_self.mpr]
    · rfl
    · exact fun name _ => rfl
  · rw [get?_merge_entries]
    exact Option.or_none

theorem merge_self (a : FilterSpec) : a.merge a.entries = a := by
  refine eq_of_get? ?_ fun name => ?_
  · rw [names_merge_entries, List.filter_eq_nil_iff.mpr, List.append_nil]
    simp
  · rw [get?_merge_entries, Option.or_self]

theorem merge_assoc (a b c : FilterSpec) :
    (a.merge b.entries).merge c.entries = a.merge (b.merge c.entries).entries := by
  refine eq_of_get? ?_ fun name => ?_
  · have hnew : c.names.filter (· ∉ a.names ++ b.names.filter (· ∉ a.names)) =
        (c.names.filter (· ∉ b.names)).filter (· ∉ a.names) := by
      rw [List.filter_filter]
      refine List.filter_congr fun name _ => ?_
      by_cases ha : name ∈ a.names <;> simp [ha]
    rw [names_merge_entries, names_merge_entries, names_merge_entries, names_merge_entries,
      List.filter_append, hnew, List.append_assoc]
  · simp only [get?_merge_entries, Option.or_assoc]

/-! ## Selection by names -/

/-- Filters are the same if they have the same values under the same names, in any order. -/
theorem sameAs_iff : a.sameAs b = true ↔ ∀ name, a.get? name = b.get? name := by
  have hvalues : (∀ e ∈ a.entries, b.get? e.1 = some e.2) ↔
      ∀ name values, a.get? name = some values → b.get? name = some values := by
    simp only [get?_eq_some_iff, Prod.forall]
  have hsame : a.sameAs b = true ↔ a.size = b.size ∧
      ∀ name values, a.get? name = some values → b.get? name = some values := by
    rw [← hvalues]
    simp [sameAs]
  have hlength (c : FilterSpec) : c.names.length = c.size := List.length_map _
  rw [hsame]
  constructor
  · rintro ⟨hsize, hsub⟩ name
    cases hget : a.get? name with
    | some values => exact (hsub name values hget).symm
    | none =>
      -- As many names as the other one has, and all of them names of it.
      have ha : a.names.Nodup := a.names_nodup
      have hnames : a.names ⊆ b.names := by
        intro k hk
        obtain ⟨values, hvalues⟩ := mem_names_iff.mp hk
        exact mem_names_iff.mpr ⟨values, hsub k values hvalues⟩
      have hle : b.names.length ≤ a.names.length := by rw [hlength, hlength, hsize]
      have hperm : a.names.Perm b.names :=
        (ha.subperm hnames).perm_of_length_le hle
      cases hother : b.get? name with
      | none => rfl
      | some values =>
        have hmem : name ∈ a.names := hperm.mem_iff.mpr (mem_names_iff.mpr ⟨values, hother⟩)
        obtain ⟨own, hown⟩ := mem_names_iff.mp hmem
        rw [hget] at hown
        cases hown
  · intro h
    refine ⟨?_, fun name values hget => (h name).symm.trans hget⟩
    have hmem (name : String) : name ∈ a.names ↔ name ∈ b.names := by
      rw [mem_names_iff, mem_names_iff, h]
    have hperm : a.names.Perm b.names :=
      (List.perm_ext_iff_of_nodup a.names_nodup b.names_nodup).mpr hmem
    rw [← hlength, ← hlength, hperm.length_eq]

/-- Two parts of a filter by the names that are wanted: each name is in one of them with its values,
both keep the order, and either part put into the other one gives the same filter again. -/
structure Splits (spec : FilterSpec) (wanted : List String) (part rest : FilterSpec) : Prop where
  get?_wanted : ∀ name ∈ wanted, part.get? name = spec.get? name ∧ rest.get? name = none
  get?_other : ∀ name, name ∉ wanted → part.get? name = none ∧ rest.get? name = spec.get? name
  part_order : part.entries.Sublist spec.entries
  rest_order : rest.entries.Sublist spec.entries
  rest_into_part : (part.merge rest.entries).sameAs spec = true
  part_into_rest : (rest.merge part.entries).sameAs spec = true

theorem splits_restrict_without (spec : FilterSpec) (wanted : List String) :
    Splits spec wanted (spec.restrict wanted) (spec.without wanted) where
  get?_wanted := fun name hname => by
    rw [get?_restrict, get?_without, if_pos hname, if_pos hname]
    exact ⟨rfl, rfl⟩
  get?_other := fun name hname => by
    rw [get?_restrict, get?_without, if_neg hname, if_neg hname]
    exact ⟨rfl, rfl⟩
  part_order := List.filter_sublist
  rest_order := List.filter_sublist
  rest_into_part := by
    refine sameAs_iff.mpr fun name => ?_
    rw [get?_merge_entries, get?_restrict, get?_without]
    by_cases hname : name ∈ wanted <;> simp [hname]
  part_into_rest := by
    refine sameAs_iff.mpr fun name => ?_
    rw [get?_merge_entries, get?_restrict, get?_without]
    by_cases hname : name ∈ wanted <;> simp [hname]

/-- Filters are ordered tables: what is built from pairs has every name once, at the place of its
first values, with all its values and at least one; filters put in place of one another form an
idempotent monoid; names that are overridden keep their places, new ones come last, and those left
without a value disappear; and a filter is split by names into two parts that make it up. -/
theorem orderedTable_laws :
    (∀ pairs, Collects pairs (ofPairs pairs) ∧ (ofPairs pairs).names.Nodup ∧
      ∀ e ∈ (ofPairs pairs).entries, e.2 = given pairs e.1 ∧ e.2 ≠ []) ∧
    (∀ a b c : FilterSpec,
      (a.merge b.entries).merge c.entries = a.merge (b.merge c.entries).entries) ∧
    (∀ a : FilterSpec, a.merge a.entries = a ∧ a.merge empty.entries = a ∧
      empty.merge a.entries = a) ∧
    (∀ spec override, (override.map Prod.fst).Nodup →
      Overrides spec override (spec.merge override)) ∧
    (∀ spec wanted, Splits spec wanted (spec.restrict wanted) (spec.without wanted)) ∧
    ∀ a b : FilterSpec, a.sameAs b = true ↔ ∀ name, a.get? name = b.get? name := by
  refine ⟨fun pairs => ⟨collects_ofPairs pairs, (ofPairs pairs).names_nodup, fun e he => ?_⟩,
    merge_assoc, fun a => ⟨merge_self a, merge_empty a, empty_merge a⟩,
    fun spec _ => overrides_merge spec, splits_restrict_without, fun a b => sameAs_iff⟩
  have hname : e.1 ∈ (ofPairs pairs).names := List.mem_map_of_mem he
  have hown : (ofPairs pairs).get? e.1 = some e.2 := get?_eq_some_iff.mpr he
  rw [(collects_ofPairs pairs).get?_of_mem hname] at hown
  exact ⟨(Option.some.inj hown).symm, (ofPairs pairs).values_ne_nil e he⟩

/-- A county is overridden at its place, a party is taken away and a gender is new. -/
theorem orderedTable_laws_override :
    (([("gender", ["F"]), ("party", []), ("county", ["Cobb", "Bibb"])] :
      List (String × List String)).map Prod.fst).Nodup ∧
    ((ofPairs [("party", ["DEM"]), ("county", ["Fulton"]), ("race", ["B"])]).merge
      [("gender", ["F"]), ("party", []), ("county", ["Cobb", "Bibb"])]).names =
        ["county", "race", "gender"] ∧
    ((ofPairs [("party", ["DEM"]), ("county", ["Fulton"]), ("race", ["B"])]).merge
      [("gender", ["F"]), ("party", []), ("county", ["Cobb", "Bibb"])]).get? "county" =
        some ["Cobb", "Bibb"] := by
  have hnodup : (([("gender", ["F"]), ("party", []), ("county", ["Cobb", "Bibb"])] :
      List (String × List String)).map Prod.fst).Nodup := by decide
  have h := orderedTable_laws.2.2.2.1
    (ofPairs [("party", ["DEM"]), ("county", ["Fulton"]), ("race", ["B"])]) _ hnodup
  have hnames := h.names.trans
    (show _ = ["county", "race", "gender"] by decide)
  exact ⟨hnodup, hnames, h.values "county" (by rw [hnames]; decide)⟩

end FilterSpec

end Electorate
