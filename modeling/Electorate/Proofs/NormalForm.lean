import Electorate.Proofs.Addresses
import Electorate.Proofs.LetterCase

/-!
# Filters read again

A filter that was read from parameters is in normal form: given as parameters again, it is read as
it is. Raising the case of its values comes to the same as raising it in the first place.

* `normalizeValue_self`: a value in normal form is in normal form.
* `FilterSpec.toParams`: a filter as parameters, with what it selects under each name
  (`distinct_names_toParams`, `values_toParams`).
* `FilterSpec.kept?_respelled`: what a parameter selects once case is raised, from what it selects
  before.
* `FilterSpec.Groups.of_toParams`: the values of a filter may be respelled before or after they are
  grouped.
* `FilterSpec.ofRaw_toParams`: a filter that is read again.
-/

namespace Electorate

/-- A value in normal form is in normal form. -/
theorem normalizeValue_self {name value v : String} {raiseCase : Bool}
    (h : normalizeValue name value raiseCase = .ok (some v)) :
    normalizeValue name v raiseCase = .ok (some v) := by
  obtain ⟨hstrip, hne⟩ := normalizeValue_normal h
  cases normalizes_of_eq_ok h with
  | address hname hread hpart =>
    -- The address that was written is the one that is read from it.
    exact normalizeValue_of_normalizes
      (.address hname (ResidentAddress.ofParam?_toParam_of_read hread) hpart)
  | number hname hproper =>
    rw [hname, normalizeValue_exactId, hstrip, if_neg hne,
      registrationNumber_eq_ok_iff.mpr ⟨hstrip, hproper⟩]
    rfl
  | text haddress hid _ =>
    rw [normalizeValue_text haddress hid, hstrip, if_neg hne]
    cases raiseCase with
    | false => rfl
    | true =>
      rw [if_pos rfl, if_pos rfl]
      rw [respelled_respelled]

namespace FilterSpec

variable {spec : FilterSpec} {allowed ignored : List String} {raiseCase later : Bool}
  {param : String × String} {params kept : List (String × String)}

/-! ## Filters as parameters -/

/-- A filter as parameters: each name with one value after the other. -/
def toParams (spec : FilterSpec) : List (String × String) :=
  spec.entries.flatMap fun e => e.2.map (e.1, ·)

theorem mem_toParams_iff {p : String × String} :
    p ∈ spec.toParams ↔ ∃ values, spec.get? p.1 = some values ∧ p.2 ∈ values := by
  obtain ⟨name, value⟩ := p
  simp only [toParams, List.mem_flatMap, List.mem_map, Prod.mk.injEq, get?_eq_some_iff]
  constructor
  · rintro ⟨e, he, _, hx, rfl, rfl⟩
    exact ⟨e.2, he, hx⟩
  · rintro ⟨values, he, hx⟩
    exact ⟨(name, values), he, value, hx, rfl, rfl⟩

/-- The parameters of a filter have its names in their order. -/
theorem distinct_names_toParams (spec : FilterSpec) :
    distinct (spec.toParams.map Prod.fst) = spec.names := by
  obtain ⟨entries, hnodup, hvalues⟩ := spec
  show distinct ((entries.flatMap fun e => e.2.map (e.1, ·)).map Prod.fst) = entries.map Prod.fst
  induction entries with
  | nil => rfl
  | cons e entries ih =>
    obtain ⟨hnew, hnodup⟩ := List.nodup_cons.mp hnodup
    have hrest : e.1 ∉ (entries.flatMap fun e => e.2.map (e.1, ·)).map Prod.fst := by
      simp only [List.mem_map, List.mem_flatMap, not_exists, not_and]
      rintro p ⟨e', he', value, -, rfl⟩ heq
      exact hnew (heq ▸ List.mem_map_of_mem he')
    have hnames : (e.2.map (e.1, ·)).map Prod.fst = e.2.map fun _ => e.1 := by
      rw [List.map_map]
      rfl
    rw [List.flatMap_cons, List.map_append, hnames,
      distinct_map_const_append (hvalues e List.mem_cons_self) hrest,
      ih hnodup fun e' he' => hvalues e' (List.mem_cons_of_mem e he'), List.map_cons]

/-- The parameters of a filter have under a name what the filter selects under it. -/
theorem values_toParams (spec : FilterSpec) (name : String) :
    (spec.toParams.filter (·.1 = name)).map Prod.snd = (spec.get? name).getD [] := by
  obtain ⟨entries, hnodup, hvalues⟩ := spec
  show ((entries.flatMap fun e => e.2.map (e.1, ·)).filter (·.1 = name)).map Prod.snd =
    (entries.lookup name).getD []
  clear hvalues
  induction entries with
  | nil => rfl
  | cons e entries ih =>
    obtain ⟨first, values⟩ := e
    obtain ⟨hnew, hnodup⟩ := List.nodup_cons.mp hnodup
    rw [List.flatMap_cons, List.filter_append, List.map_append, ih hnodup, lookup_cons_eq]
    by_cases hname : name = first
    · subst hname
      have hnone : entries.lookup name = none := by
        rw [List.lookup_eq_none_iff]
        intro e he
        refine bne_iff_ne.mpr fun heq => hnew ?_
        show name ∈ entries.map Prod.fst
        rw [heq]
        exact List.mem_map_of_mem he
      have hall : (values.map (name, ·)).filter (fun e => decide (e.1 = name)) =
          values.map (name, ·) := by
        simp [List.filter_eq_self]
      rw [hall, hnone, if_pos rfl, List.map_map]
      simp [Function.comp_def]
    · have hother : (values.map (first, ·)).filter (fun e => decide (e.1 = name)) = [] := by
        simp [Ne.symm hname]
      rw [hother, if_neg hname]
      rfl

/-! ## Reading them -/

/-- The parameters of a filter that was read are accepted, and kept as they are. -/
theorem kept?_of_mem_toParams (h : ofParams params allowed ignored raiseCase = .ok spec)
    {p : String × String} (hp : p ∈ spec.toParams) :
    ¬Refused allowed ignored p ∧ kept? ignored raiseCase p = some p := by
  obtain ⟨values, hget, hx⟩ := mem_toParams_iff.mp hp
  obtain ⟨q, hq, hname, hnormal⟩ := exists_param_of_get? h hget hx
  have hproper := (groups_ofParams h).proper (not_refused_of_ofParams h)
  have hmem : p.1 ∈ spec.names := mem_names_iff.mpr ⟨values, hget⟩
  have hread := hproper.notIgnored p.1 hmem
  have hself := normalizeValue_self hnormal
  refine ⟨?_, ?_⟩
  · rintro ⟨-, hname | ⟨id, hid, hbad⟩⟩
    · exact hname (hproper.allowed p.1 hmem)
    · have herror : normalizeValue p.1 p.2 raiseCase = .error (.badRegistrationNumber id) :=
        normalizeValue_eq_error_iff.mpr ⟨id, hid, hbad, rfl⟩
      rw [hself] at herror
      cases herror
  · rw [kept?, if_neg hread, hself]
    rfl

/-- What a parameter selects is respelled if case is raised later, and stays as it is otherwise. -/
theorem kept?_respelled (ignored : List String) (h : raiseCase = true → later = true) :
    ∃ f : String → String → String, ∀ param, kept? ignored later param =
      (kept? ignored raiseCase param).map fun e => (e.1, f e.1 e.2) := by
  by_cases hsame : raiseCase = later
  · subst hsame
    exact ⟨fun _ value => value, fun param => Option.map_id'.symm⟩
  · obtain ⟨rfl, rfl⟩ : raiseCase = false ∧ later = true := by
      cases raiseCase <;> cases later <;> simp at h hsame ⊢
    refine ⟨respelled, fun param => ?_⟩
    unfold kept?
    split
    · rfl
    · rw [normalizeValue_raised]
      cases normalizeValue param.1 param.2 false with
      | error e => rfl
      | ok o => cases o <;> rfl

/-- The values under a name that are respelled are those under it, respelled. -/
theorem values_respelled (f : String → String → String) (l : List (String × String))
    (name : String) :
    ((l.map fun e => (e.1, f e.1 e.2)).filter (·.1 = name)).map Prod.snd =
      ((l.filter (·.1 = name)).map Prod.snd).map (f name) := by
  rw [List.filter_map, List.map_map, List.map_map]
  refine List.map_congr_left fun e he => ?_
  have hname : e.1 = name := of_decide_eq_true (List.mem_filter.mp he).2
  rw [← hname]
  rfl

/-- Values may be respelled before they are grouped or afterwards. -/
theorem Groups.of_toParams {next : FilterSpec} (h : Groups kept spec)
    {f : String → String → String}
    (hnext : Groups (spec.toParams.map fun e => (e.1, f e.1 e.2)) next) :
    Groups (kept.map fun e => (e.1, f e.1 e.2)) next where
  names := by
    have hfst (l : List (String × String)) :
        (l.map fun e => (e.1, f e.1 e.2)).map Prod.fst = l.map Prod.fst := by
      rw [List.map_map]
      rfl
    rw [hnext.names, hfst, hfst, distinct_names_toParams, h.names]
  values := fun name => by
    rw [hnext.values, values_respelled, values_respelled, values_toParams, h.values,
      distinct_map_distinct]

/-- What is kept gives one filter. -/
theorem Groups.unique {other : FilterSpec} (h : Groups kept spec) (h' : Groups kept other) :
    spec = other :=
  eq_of_entries (h.entries_eq.trans h'.entries_eq.symm)

/-- Reading the parameters of a filter that was read is reading its own parameters in the first
place, with case raised later or not. -/
theorem ofParams_toParams (h : ofParams params allowed ignored raiseCase = .ok spec)
    (hlater : raiseCase = true → later = true) :
    ∃ next, ofParams spec.toParams allowed ignored later = .ok next ∧
      ofParams params allowed ignored later = .ok next := by
  obtain ⟨f, hf⟩ := kept?_respelled ignored hlater
  obtain ⟨again, hagain, hgroups⟩ :=
    exists_ofParams (fun p hp => (kept?_of_mem_toParams h hp).1) later
  obtain ⟨next, hnext, hgroups'⟩ := exists_ofParams (not_refused_of_ofParams h) later
  have hown : spec.toParams.filterMap (kept? ignored later) =
      spec.toParams.map fun e => (e.1, f e.1 e.2) := by
    rw [← List.filterMap_eq_map]
    refine List.filterMap_congr fun p hp => ?_
    rw [hf, (kept?_of_mem_toParams h hp).2]
    rfl
  have hgiven : params.filterMap (kept? ignored later) =
      (params.filterMap (kept? ignored raiseCase)).map fun e => (e.1, f e.1 e.2) := by
    rw [List.map_filterMap]
    exact List.filterMap_congr fun p _ => hf p
  rw [hown] at hgroups
  rw [hgiven] at hgroups'
  obtain rfl := ((groups_ofParams h).of_toParams hgroups).unique hgroups'
  exact ⟨again, hagain, hnext⟩

/-- A filter that is given as parameters again, in whichever form, is read as it is. If the case of
its values was kept, to raise it now gives what raising it in the first place does. -/
theorem ofRaw_toParams {raw again : RawParams}
    (h : ofRaw raw allowed ignored raiseCase = .ok spec) (hagain : again.inOrder = spec.toParams) :
    ofRaw again allowed ignored raiseCase = .ok spec ∧
    (raiseCase = false → ∃ raised, ofRaw again allowed ignored true = .ok raised ∧
      ofRaw raw allowed ignored true = .ok raised) := by
  have hofRaw (r : Bool) : ofRaw again allowed ignored r =
      ofParams spec.toParams allowed ignored r := by rw [ofRaw, hagain]
  constructor
  · obtain ⟨next, hnext, hsame⟩ := ofParams_toParams h id
    obtain rfl := Except.ok.inj (hsame.symm.trans h)
    rw [hofRaw, hnext]
  · rintro rfl
    have hlater : false = true → true = true := fun _ => rfl
    obtain ⟨raised, hraised, hsame⟩ := ofParams_toParams h hlater
    exact ⟨raised, (hofRaw true).trans hraised, hsame⟩

/-- A county in two spellings and an address in Atlanta. -/
def twoSpellings : FilterSpec :=
  ofPairs [("county", ["Straße", "STRASSE"]), ("residentAddress", ["12,,Main St,,,,Atlanta,"])]

/-- A mapping of two spellings and an address is read as it is, and raised to one spelling. -/
theorem ofRaw_toParams_spellings :
    ofRaw (.pairs [("county", " Straße"), ("residentAddress", "12 ,, Main St,,,,Atlanta, "),
      ("page", "2"), ("county", "STRASSE"), ("county", "Straße ")])
      Dimension.allNames ["page"] false = .ok twoSpellings ∧
    (RawParams.mapping [("county", .several ["Straße", "STRASSE"]),
      ("residentAddress", .one "12,,Main St,,,,Atlanta,")]).inOrder = twoSpellings.toParams ∧
    ofRaw (.mapping [("county", .several ["Straße", "STRASSE"]),
      ("residentAddress", .one "12,,Main St,,,,Atlanta,")])
      Dimension.allNames ["page"] false = .ok twoSpellings ∧
    ∃ raised, ofRaw (.mapping [("county", .several ["Straße", "STRASSE"]),
      ("residentAddress", .one "12,,Main St,,,,Atlanta,")])
      Dimension.allNames ["page"] true = .ok raised ∧ raised.get? "county" = some ["STRASSE"] := by
  have h : ofRaw (.pairs [("county", " Straße"), ("residentAddress", "12 ,, Main St,,,,Atlanta, "),
      ("page", "2"), ("county", "STRASSE"), ("county", "Straße ")])
      Dimension.allNames ["page"] false = .ok twoSpellings := by rfl
  have hagain : (RawParams.mapping [("county", .several ["Straße", "STRASSE"]),
      ("residentAddress", .one "12,,Main St,,,,Atlanta,")]).inOrder = twoSpellings.toParams := by
    rfl
  obtain ⟨hsame, hlater⟩ := ofRaw_toParams h hagain
  obtain ⟨raised, hraised, hfirst⟩ := hlater rfl
  refine ⟨h, hagain, hsame, raised, hraised, ?_⟩
  have hcounty : (ofRaw (.pairs [("county", " Straße"),
      ("residentAddress", "12 ,, Main St,,,,Atlanta, "), ("page", "2"), ("county", "STRASSE"),
      ("county", "Straße ")]) Dimension.allNames ["page"] true).toOption.bind (·.get? "county") =
      some ["STRASSE"] := by decide +kernel
  rw [hfirst] at hcounty
  exact hcounty

end FilterSpec

end Electorate
