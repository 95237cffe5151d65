import Electorate.Distinct
import Electorate.Proofs.NormalValues

/-!
# Filters from parameters

Parameters are read in one pass, in which they are skipped, refused, dropped, brought into normal
form and collected under their names. What comes out is told by the parameters alone.

* `FilterSpec.Refused`, `FilterSpec.refusal`: which parameters are refused, and what for.
* `FilterSpec.kept?`, `FilterSpec.grouped`: what a parameter selects, and the names of what is kept
  with their values, each name and each value once, at its first place.
* `FilterSpec.kept?_eq_some_iff`, `FilterSpec.kept?_eq_none_iff`: a parameter selects its value in
  normal form, and nothing if its name is ignored or the value is dropped.
* `FilterSpec.foldlM_addParam_of_refused`, `FilterSpec.Groups.foldlM_addParam`: how a pass ends.
* `FilterSpec.ofRaw_cases`: the first refused parameter is reported, or all that is kept is grouped.
-/

namespace Electorate

/-! ## One pass -/

namespace FilterSpec

variable {spec : FilterSpec} {allowed ignored : List String} {raiseCase : Bool}
  {param : String × String} {params kept : List (String × String)}

/-- A parameter is refused if its name is neither allowed nor ignored, or if it asks for a
registration number that is none. -/
def Refused (allowed ignored : List String) (param : String × String) : Prop :=
  param.1 ∉ ignored ∧
    (param.1 ∉ allowed ∨ ∃ id, numberOf? param = some id ∧ ¬IsRegistrationNumber id)

/-- What a refused parameter is refused for. -/
def refusal (allowed : List String) (param : String × String) : FilterError :=
  if param.1 ∈ allowed then .badRegistrationNumber (Text.strip param.2)
  else .unknownKey param.1 allowed

/-- What a parameter selects: its name with its value in normal form. A parameter whose name is
ignored or whose value is nothing selects nothing. -/
def kept? (ignored : List String) (raiseCase : Bool) (param : String × String) :
    Option (String × String) :=
  if param.1 ∈ ignored then none
  else (normalizeValue param.1 param.2 raiseCase).toOption.join.map (param.1, ·)

/-- A parameter selects its value in normal form. -/
theorem kept?_eq_some_iff {e : String × String} : kept? ignored raiseCase param = some e ↔
    param.1 ∉ ignored ∧ e.1 = param.1 ∧ Normalizes raiseCase param.1 param.2 (some e.2) := by
  rw [kept?, ← normalizeValue_eq_ok_iff]
  by_cases hread : param.1 ∈ ignored
  · simp [hread]
  · rw [if_neg hread, Option.map_eq_some_iff]
    constructor
    · rintro ⟨v, hv, rfl⟩
      refine ⟨hread, rfl, ?_⟩
      cases hn : normalizeValue param.1 param.2 raiseCase with
      | error e => simp [hn, Except.toOption] at hv
      | ok o => simpa [hn, Except.toOption] using hv
    · rintro ⟨-, hname, hn⟩
      refine ⟨e.2, ?_, Prod.ext hname.symm rfl⟩
      rw [hn]
      rfl

/-- A parameter that is not refused selects nothing if its name is ignored or its value dropped. -/
theorem kept?_eq_none_iff (h : ¬Refused allowed ignored param) :
    kept? ignored raiseCase param = none ↔
      param.1 ∈ ignored ∨ Normalizes raiseCase param.1 param.2 none := by
  rw [kept?, ← normalizeValue_eq_ok_iff]
  by_cases hread : param.1 ∈ ignored
  · simp [hread]
  · rw [if_neg hread, Option.map_eq_none_iff, or_iff_right hread]
    cases hn : normalizeValue param.1 param.2 raiseCase with
    | error e =>
      obtain ⟨id, hid, hbad, -⟩ := normalizeValue_eq_error_iff.mp hn
      exact absurd ⟨hread, .inr ⟨id, hid, hbad⟩⟩ h
    | ok o => simp [Except.toOption]

/-- Names with their values, each name and each of its values once, at its first place. -/
def grouped (kept : List (String × String)) : List (String × List String) :=
  (distinct (kept.map Prod.fst)).map fun name =>
    (name, distinct ((kept.filter (·.1 = name)).map Prod.snd))

/-- A refused parameter is refused whatever was read before it. -/
theorem addParam_of_refused (h : Refused allowed ignored param) (spec : FilterSpec) :
    addParam allowed ignored raiseCase spec param = .error (refusal allowed param) := by
  obtain ⟨name, value⟩ := param
  obtain ⟨hread, hbad⟩ := h
  simp only [addParam, List.contains_iff_mem, if_neg hread, Bool.not_eq_true',
    Bool.eq_false_iff, ne_eq, refusal]
  by_cases hname : name ∈ allowed
  · obtain ⟨id, hid, hproper⟩ := hbad.resolve_left (not_not.mpr hname)
    obtain ⟨-, -, rfl⟩ := numberOf?_eq_some_iff.mp hid
    have herror : normalizeValue name value raiseCase =
        .error (.badRegistrationNumber (Text.strip value)) :=
      normalizeValue_eq_error_iff.mpr ⟨_, hid, hproper, rfl⟩
    rw [if_neg (not_not.mpr hname), herror, if_pos hname]
  · rw [if_pos hname, if_neg hname]

/-- Any other parameter adds what it selects. -/
theorem addParam_of_not_refused (h : ¬Refused allowed ignored param) (raiseCase : Bool)
    (spec : FilterSpec) : addParam allowed ignored raiseCase spec param =
      .ok ((kept? ignored raiseCase param).elim spec fun e => spec.select e.1 e.2) := by
  obtain ⟨name, value⟩ := param
  simp only [addParam, List.contains_iff_mem, kept?]
  by_cases hread : name ∈ ignored
  · rw [if_pos hread, if_pos hread]
    rfl
  have hgood : name ∈ allowed ∧ ∀ id, numberOf? (name, value) = some id →
      IsRegistrationNumber id := by
    simpa [Refused, hread] using h
  have hallowed : ¬(!allowed.contains name) = true := by simp [hgood.1]
  rw [if_neg hread, if_neg hread, if_neg hallowed]
  cases hv : normalizeValue name value raiseCase with
  | error e =>
    obtain ⟨id, hid, hbad, -⟩ := normalizeValue_eq_error_iff.mp hv
    exact absurd (hgood.2 id hid) hbad
  | ok v => cases v <;> rfl

/-- A filter has the names and values that were kept, in groups. -/
structure Groups (kept : List (String × String)) (spec : FilterSpec) : Prop where
  names : spec.names = distinct (kept.map Prod.fst)
  values : ∀ name, (spec.get? name).getD [] =
    distinct ((kept.filter (·.1 = name)).map Prod.snd)

theorem groups_empty : Groups [] empty where
  names := rfl
  values := fun _ => rfl

/-- One more value that is kept is selected. -/
theorem Groups.select (h : Groups kept spec) (name value : String) :
    Groups (kept ++ [(name, value)]) (spec.select name value) where
  names := by
    rw [names_select, List.map_append, List.map_singleton, distinct_append_singleton, h.names]
    simp only [mem_distinct]
  values := by
    intro k
    rw [get?_select, List.filter_append]
    by_cases hk : k = name
    · subst hk
      have hlast : [(k, value)].filter (fun e => decide (e.1 = k)) = [(k, value)] := by simp
      rw [if_pos rfl, Option.getD_some, h.values, hlast, List.map_append, List.map_singleton,
        distinct_append_singleton]
      simp only [mem_distinct]
    · have hlast : [(name, value)].filter (fun e => decide (e.1 = k)) = [] := by
        simp [Ne.symm hk]
      rw [if_neg hk, h.values, hlast, List.append_nil]

/-- A pass over parameters that are not refused keeps what each of them selects. -/
theorem Groups.foldlM_addParam (h : Groups kept spec) (raiseCase : Bool)
    (hparams : ∀ p ∈ params, ¬Refused allowed ignored p) :
    ∃ next, params.foldlM (addParam allowed ignored raiseCase) spec = .ok next ∧
      Groups (kept ++ params.filterMap (kept? ignored raiseCase)) next := by
  induction params generalizing spec kept with
  | nil => exact ⟨spec, rfl, by simpa using h⟩
  | cons p params ih =>
    have hp := addParam_of_not_refused (hparams p (by simp)) raiseCase spec
    have hrest : ∀ q ∈ params, ¬Refused allowed ignored q := fun q hq =>
      hparams q (List.mem_cons_of_mem p hq)
    rw [List.foldlM_cons, hp, List.filterMap_cons]
    cases hkept : kept? ignored raiseCase p with
    | none => exact ih h hrest
    | some e =>
      obtain ⟨next, hnext, hgroups⟩ := ih (h.select e.1 e.2) hrest
      rw [List.append_assoc] at hgroups
      exact ⟨next, hnext, hgroups⟩

/-- The first refused parameter ends a pass. -/
theorem foldlM_addParam_of_refused {before after : List (String × String)}
    (hbefore : ∀ p ∈ before, ¬Refused allowed ignored p) (h : Refused allowed ignored param)
    (spec : FilterSpec) :
    (before ++ param :: after).foldlM (addParam allowed ignored raiseCase) spec =
      .error (refusal allowed param) := by
  induction before generalizing spec with
  | nil =>
    rw [List.nil_append, List.foldlM_cons, addParam_of_refused h]
    rfl
  | cons p before ih =>
    rw [List.cons_append, List.foldlM_cons, addParam_of_not_refused (hbefore p (by simp))]
    exact ih (fun q hq => hbefore q (List.mem_cons_of_mem p hq)) _

/-- Where a parameter is refused there is a first one. -/
theorem exists_first_refused (h : ∃ p ∈ params, Refused allowed ignored p) :
    ∃ before param after, params = before ++ param :: after ∧
      (∀ p ∈ before, ¬Refused allowed ignored p) ∧ Refused allowed ignored param := by
  induction params with
  | nil => simp at h
  | cons p params ih =>
    by_cases hp : Refused allowed ignored p
    · exact ⟨[], p, params, rfl, by simp, hp⟩
    · have hrest : ∃ q ∈ params, Refused allowed ignored q := by
        obtain ⟨q, hq, hrefused⟩ := h
        rcases List.mem_cons.mp hq with rfl | hq
        · exact absurd hrefused hp
        · exact ⟨q, hq, hrefused⟩
      obtain ⟨before, param, after, rfl, hbefore, hparam⟩ := ih hrest
      refine ⟨p :: before, param, after, rfl, ?_, hparam⟩
      exact List.forall_mem_cons.mpr ⟨hp, hbefore⟩

/-! ## What comes out -/

/-- What is accepted was not refused anywhere. -/
theorem not_refused_of_ofParams (h : ofParams params allowed ignored raiseCase = .ok spec) :
    ∀ p ∈ params, ¬Refused allowed ignored p := by
  intro p hp hrefused
  obtain ⟨before, param, after, rfl, hbefore, hparam⟩ := exists_first_refused ⟨p, hp, hrefused⟩
  rw [ofParams, foldlM_addParam_of_refused hbefore hparam] at h
  cases h

/-- What is not refused anywhere is accepted, and has all that was kept. -/
theorem exists_ofParams (h : ∀ p ∈ params, ¬Refused allowed ignored p) (raiseCase : Bool) :
    ∃ spec, ofParams params allowed ignored raiseCase = .ok spec ∧
      Groups (params.filterMap (kept? ignored raiseCase)) spec :=
  groups_empty.foldlM_addParam raiseCase h

/-- What is accepted has all that was kept. -/
theorem groups_ofParams (h : ofParams params allowed ignored raiseCase = .ok spec) :
    Groups (params.filterMap (kept? ignored raiseCase)) spec := by
  obtain ⟨next, hnext, hgroups⟩ := exists_ofParams (not_refused_of_ofParams h) raiseCase
  obtain rfl := Except.ok.inj (hnext.symm.trans h)
  exact hgroups

/-- Each value of an accepted filter is that of a parameter of its name, in normal form. -/
theorem exists_param_of_get? (h : ofParams params allowed ignored raiseCase = .ok spec)
    {name : String} {values : List String} (hget : spec.get? name = some values) {x : String}
    (hx : x ∈ values) :
    ∃ p ∈ params, p.1 = name ∧ normalizeValue name p.2 raiseCase = .ok (some x) := by
  have hvalues := (groups_ofParams h).values name
  rw [hget, Option.getD_some] at hvalues
  rw [hvalues, mem_distinct, List.mem_map] at hx
  obtain ⟨e, he, rfl⟩ := hx
  obtain ⟨hkept, hname⟩ := List.mem_filter.mp he
  obtain ⟨p, hp, hsome⟩ := List.mem_filterMap.mp hkept
  obtain ⟨-, hfst, hnormal⟩ := kept?_eq_some_iff.mp hsome
  have hpname : p.1 = name := hfst.symm.trans (of_decide_eq_true hname)
  exact ⟨p, hp, hpname, hpname ▸ normalizeValue_of_normalizes hnormal⟩

theorem Groups.entries_eq (h : Groups kept spec) : spec.entries = grouped kept := by
  rw [spec.entries_eq, h.names, grouped]
  exact List.map_congr_left fun name _ => by rw [h.values]

/-- The first value of a name is the first that was kept under it. -/
theorem Groups.first?_eq (h : Groups kept spec) (name : String) :
    spec.first? name = ((kept.filter (·.1 = name)).map Prod.snd).head? := by
  have hhead : spec.first? name = ((spec.get? name).getD []).head? := by
    rw [first?]
    cases spec.get? name <;> rfl
  rw [hhead, h.values, head?_distinct]

/-- What is kept has an allowed name that is not ignored, and a value in normal form. -/
theorem kept?_eq_some {e : String × String} (hparam : ¬Refused allowed ignored param)
    (h : kept? ignored raiseCase param = some e) :
    e.1 ∈ allowed ∧ e.1 ∉ ignored ∧ Text.strip e.2 = e.2 ∧ e.2 ≠ "" := by
  obtain ⟨hread, hfst, hnormal⟩ := kept?_eq_some_iff.mp h
  have hname : param.1 ∈ allowed := by
    by_contra hname
    exact hparam ⟨hread, .inl hname⟩
  rw [hfst]
  exact ⟨hname, hread, normalizeValue_normal (normalizeValue_of_normalizes hnormal)⟩

/-- A filter whose names are allowed and whose values are in normal form, each once. -/
structure Proper (allowed ignored : List String) (spec : FilterSpec) : Prop where
  allowed : ∀ name ∈ spec.names, name ∈ allowed
  notIgnored : ∀ name ∈ spec.names, name ∉ ignored
  nonempty : ∀ e ∈ spec.entries, e.2 ≠ []
  nodup : ∀ e ∈ spec.entries, e.2.Nodup
  /-- No value is blank or has blanks at its ends. -/
  visible : ∀ e ∈ spec.entries, ∀ v ∈ e.2, Text.strip v = v ∧ v ≠ ""

theorem Groups.proper (h : Groups (params.filterMap (kept? ignored raiseCase)) spec)
    (hparams : ∀ p ∈ params, ¬Refused allowed ignored p) : Proper allowed ignored spec := by
  have hkept : ∀ e ∈ params.filterMap (kept? ignored raiseCase),
      e.1 ∈ allowed ∧ e.1 ∉ ignored ∧ Text.strip e.2 = e.2 ∧ e.2 ≠ "" := by
    intro e he
    obtain ⟨p, hp, hsome⟩ := List.mem_filterMap.mp he
    exact kept?_eq_some (hparams p hp) hsome
  have hnames : ∀ name ∈ spec.names, name ∈ allowed ∧ name ∉ ignored := by
    intro name hname
    rw [h.names, mem_distinct] at hname
    obtain ⟨e, he, rfl⟩ := List.mem_map.mp hname
    exact ⟨(hkept e he).1, (hkept e he).2.1⟩
  have hvalues : ∀ e ∈ spec.entries, e.2 =
      distinct (((params.filterMap (kept? ignored raiseCase)).filter (·.1 = e.1)).map Prod.snd) := by
    intro e he
    have hget : spec.get? e.1 = some e.2 := get?_eq_some_iff.mpr he
    rw [← h.values, hget, Option.getD_some]
  refine ⟨fun name hn => (hnames name hn).1, fun name hn => (hnames name hn).2, spec.values_ne_nil,
    fun e he => ?_, fun e he v hv => ?_⟩
  · rw [hvalues e he]
    exact nodup_distinct _
  · rw [hvalues e he, mem_distinct] at hv
    obtain ⟨k, hk, rfl⟩ := List.mem_map.mp hv
    exact (hkept k (List.mem_filter.mp hk).1).2.2

end FilterSpec

/-- The names that would have been accepted are told in order. -/
theorem FilterError.sortNames_sorted (names : List String) :
    (FilterError.sortNames names).Pairwise (· ≤ ·) ∧ (FilterError.sortNames names).Perm names := by
  have htrans : ∀ a b c : String, decide (a ≤ b) = true → decide (b ≤ c) = true →
      decide (a ≤ c) = true := by
    intro a b c hab hbc
    simp only [decide_eq_true_eq] at hab hbc ⊢
    exact String.le_trans hab hbc
  have htotal : ∀ a b : String, (decide (a ≤ b) || decide (b ≤ a)) = true := by
    intro a b
    simp only [Bool.or_eq_true, decide_eq_true_eq]
    exact String.le_total a b
  have hsorted := List.pairwise_mergeSort htrans htotal names
  exact ⟨hsorted.imp fun hab => of_decide_eq_true hab, List.mergeSort_perm ..⟩

/-- A mapping stands for its names, each with one value after the other. -/
theorem RawParams.flatten_eq (entries : List (String × GivenValues)) :
    flatten entries = entries.flatMap fun e => e.2.toList.map (e.1, ·) := by
  induction entries with
  | nil => rfl
  | cons e entries ih =>
    obtain ⟨name, value | values⟩ := e <;> simp [flatten, GivenValues.toList, ih]

namespace FilterSpec

variable {allowed ignored : List String} {param : String × String}

/-- A refusal names the refused parameter. It tells the allowed names, in order, where the name is
the fault. -/
theorem refusal_tells (h : Refused allowed ignored param) :
    (refusal allowed param).key? = some param.1 ∧
      (param.1 ∉ allowed → (refusal allowed param).allowed.Pairwise (· ≤ ·) ∧
        (refusal allowed param).allowed.Perm allowed) := by
  unfold refusal
  by_cases hname : param.1 ∈ allowed
  · rw [if_pos hname]
    obtain ⟨id, hid, -⟩ := h.2.resolve_left (not_not.mpr hname)
    have hexact : param.1 = Dimension.exactId.name := (numberOf?_eq_some_iff.mp hid).1
    exact ⟨by rw [hexact]; rfl, fun hn => absurd hname hn⟩
  · rw [if_neg hname]
    exact ⟨rfl, fun _ => FilterError.sortNames_sorted allowed⟩

/-- Parameters in any form are refused for the first of them that is, or give the filter of what
they select: names and values in the order in which they first come, allowed and in normal form. What
each of them selects is told by `kept?_eq_some_iff` and `Normalizes`. A mapping is read as its names
with one value each. -/
theorem ofRaw_cases (raw : RawParams) (allowed ignored : List String) (raiseCase : Bool) :
    ((∃ before param after e, raw.inOrder = before ++ param :: after ∧
        (∀ p ∈ before, ¬Refused allowed ignored p) ∧ Refused allowed ignored param ∧
        ofRaw raw allowed ignored raiseCase = .error e ∧ e = refusal allowed param ∧
        e.key? = some param.1 ∧
        (param.1 ∉ allowed → e.allowed.Pairwise (· ≤ ·) ∧ e.allowed.Perm allowed)) ∨
      (∀ p ∈ raw.inOrder, ¬Refused allowed ignored p) ∧
        ∃ spec, ofRaw raw allowed ignored raiseCase = .ok spec ∧
          spec.entries = grouped (raw.inOrder.filterMap (kept? ignored raiseCase)) ∧
          Proper allowed ignored spec) ∧
    ∀ entries, raw = .mapping entries → ofRaw raw allowed ignored raiseCase =
      ofParams (entries.flatMap fun e => e.2.toList.map (e.1, ·)) allowed ignored raiseCase := by
  constructor
  · by_cases h : ∃ p ∈ raw.inOrder, Refused allowed ignored p
    · obtain ⟨before, param, after, hraw, hbefore, hparam⟩ := exists_first_refused h
      obtain ⟨hkey, hallowed⟩ := refusal_tells hparam
      refine .inl ⟨before, param, after, _, hraw, hbefore, hparam, ?_, rfl, hkey, hallowed⟩
      rw [ofRaw, ofParams, hraw]
      exact foldlM_addParam_of_refused hbefore hparam empty
    · push Not at h
      obtain ⟨spec, hspec, hgroups⟩ := exists_ofParams h raiseCase
      exact .inr ⟨h, spec, hspec, hgroups.entries_eq, hgroups.proper h⟩
  · rintro entries rfl
    rw [ofRaw, RawParams.inOrder, RawParams.flatten_eq]

/-- Of names that come in turns each keeps its first place. A blank value, a repeated one and one
under an ignored name are dropped. -/
example :
    (ofRaw (.pairs [("gender", " f"), ("page", "2"), ("race", ""), ("county", "Fulton"),
      ("gender", "M"), ("county", "fulton ")]) Dimension.allNames ["page"] true).toOption.map
        (·.entries) = some [("gender", ["F", "M"]), ("county", ["FULTON"])] := by
  rfl

end FilterSpec

end Electorate
