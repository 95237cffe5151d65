import Electorate.Proofs.ChartCover

/-!
# Labels of combinations

A label names the dimensions of a combination with their values. It is written without marks for
where a value ends, so that a value which holds what stands between two others can be mistaken for
these.

* `gap`, `onward`: what stands between a value and the next one, and a label from a value on.
* `RunsOn`: a value that begins another one, with the gap behind each of them.
* `Mistakable`: two combinations of which, where they first differ, one value runs on into the
  other.
* `eq_or_mistakable_of_label_eq`: combinations with one label are the same or mistakable.
* `ValuesApart`: no value runs on into another one; values without a comma are such
  (`valuesApart_of_no_comma`).
* `FilterSpec.labels_distinct`: the labels of a filter's combinations are distinct as far as these
  are not mistakable.
* `FilterSpec.not_labels_distinct`: four combinations with three labels.
-/

namespace Electorate

open Text (joinWith)

/-! ## What a label writes -/

/-- What stands between a value and that of the next name. -/
def gap (next : String) : String := ", " ++ displayName next ++ ": "

/-- A label from a value on. -/
def onward (x : String) : List (String × String) → String
  | [] => x
  | (next, y) :: row => x ++ gap next ++ onward y row

theorem label_cons (name x : String) (row : List (String × String)) :
    Combination.label ⟨(name, x) :: row⟩ = displayName name ++ ": " ++ onward x row := by
  unfold Combination.label
  induction row generalizing name x with
  | nil => rfl
  | cons a row ih =>
    obtain ⟨next, y⟩ := a
    have hrest := ih next y
    simp only [List.map_cons, joinWith, onward, gap, String.append_assoc] at hrest ⊢
    rw [hrest]

/-! ## Values that run on -/

/-- With the gap behind each of them, one value begins the other. -/
def RunsOn (next x y : String) : Prop := (x ++ gap next).toList <+: (y ++ gap next).toList

/-- Two combinations of which, where they first differ, one value runs on into the other. -/
inductive Mistakable : List (String × String) → List (String × String) → Prop
  | here {name next x y u u' : String} {row row' : List (String × String)} (hne : x ≠ y)
      (hrun : RunsOn next x y ∨ RunsOn next y x) :
      Mistakable ((name, x) :: (next, u) :: row) ((name, y) :: (next, u') :: row')
  | there {name x : String} {row row' : List (String × String)} (h : Mistakable row row') :
      Mistakable ((name, x) :: row) ((name, x) :: row')

/-- Two labels that are the same from a value on come from the same values, or one value runs on
into the other. -/
theorem eq_or_mistakable_of_onward_eq {row row' : List (String × String)}
    (hnames : row.map Prod.fst = row'.map Prod.fst) (name : String) {x y : String}
    (h : onward x row = onward y row') :
    (name, x) :: row = (name, y) :: row' ∨ Mistakable ((name, x) :: row) ((name, y) :: row') := by
  induction row generalizing row' name x y with
  | nil =>
    obtain rfl : row' = [] := by simpa using hnames.symm
    obtain rfl : x = y := h
    exact .inl rfl
  | cons a row ih =>
    obtain ⟨next, u⟩ := a
    cases row' with
    | nil => cases hnames
    | cons a' row' =>
      obtain ⟨next', u'⟩ := a'
      obtain ⟨rfl, hrest⟩ := List.cons.inj hnames
      have hchars : (x ++ gap next).toList ++ (onward u row).toList =
          (y ++ gap next).toList ++ (onward u' row').toList := by
        rw [← String.toList_append, ← String.toList_append]
        exact congrArg String.toList h
      by_cases hxy : x = y
      · subst hxy
        have htail : onward u row = onward u' row' :=
          String.toList_inj.mp (List.append_cancel_left hchars)
        rcases ih hrest next htail with he | hm
        · exact .inl (congrArg ((name, x) :: ·) he)
        · exact .inr (.there hm)
      · -- Both values, with their gaps, begin one text.
        have hx : (x ++ gap next).toList <+: (y ++ gap next).toList ++ (onward u' row').toList :=
          hchars ▸ List.prefix_append _ _
        have hy := List.prefix_append (y ++ gap next).toList (onward u' row').toList
        exact .inr (.here hxy (List.prefix_or_prefix_of_prefix hx hy))

/-- Combinations of the same names with one label are the same or mistakable. -/
theorem eq_or_mistakable_of_label_eq {row row' : List (String × String)}
    (hnames : row.map Prod.fst = row'.map Prod.fst)
    (h : Combination.label ⟨row⟩ = Combination.label ⟨row'⟩) : row = row' ∨ Mistakable row row' := by
  cases row with
  | nil =>
    obtain rfl : row' = [] := by simpa using hnames.symm
    exact .inl rfl
  | cons a row =>
    cases row' with
    | nil => cases hnames
    | cons a' row' =>
      obtain ⟨name, x⟩ := a
      obtain ⟨name', y⟩ := a'
      obtain ⟨rfl, hrest⟩ := List.cons.inj hnames
      rw [label_cons, label_cons] at h
      have htail : onward x row = onward y row' := by
        have hchars := congrArg String.toList h
        simp only [String.toList_append] at hchars
        exact String.toList_inj.mp (List.append_cancel_left hchars)
      exact eq_or_mistakable_of_onward_eq hrest name htail

/-- No value of a name that another one follows runs on into another value of the name. -/
def ValuesApart : List (String × List String) → Prop
  | (_, values) :: (next, others) :: es =>
    (∀ x ∈ values, ∀ y ∈ values, RunsOn next x y → x = y) ∧ ValuesApart ((next, others) :: es)
  | _ => True

theorem ValuesApart.tail {e : String × List String} {es : List (String × List String)}
    (h : ValuesApart (e :: es)) : ValuesApart es := by
  cases es with
  | nil => trivial
  | cons f es => exact h.2

/-- Where no value runs on, no two choices are mistakable. -/
theorem not_mistakable_of_mem_choices {es : List (String × List String)} (h : ValuesApart es)
    {row row' : List (String × String)} (hrow : row ∈ choices es) (hrow' : row' ∈ choices es) :
    ¬Mistakable row row' := by
  intro hm
  induction hm generalizing es with
  | @here name next x y u u' row row' hne hrun =>
    have hf := mem_choices_iff.mp hrow
    have hf' := mem_choices_iff.mp hrow'
    cases hf with
    | @cons e _ _ _ hx hf =>
      cases hf with
      | @cons f _ _ _ hu _ =>
        cases hf' with
        | cons hy _ =>
          obtain rfl : next = f.1 := hu.1
          rcases hrun with hr | hr
          · exact hne (h.1 x hx.2 y hy.2 hr)
          · exact hne (h.1 y hy.2 x hx.2 hr).symm
  | there _ ih =>
    have hf := mem_choices_iff.mp hrow
    have hf' := mem_choices_iff.mp hrow'
    cases hf with
    | cons _ hf =>
      cases hf' with
      | cons _ hf' =>
        exact ih h.tail (mem_choices_iff.mpr hf) (mem_choices_iff.mpr hf')

/-! ## Commas -/

/-- Texts up to their first comma are known from where the comma stands. -/
theorem eq_of_comma {xs ys s t : List Char} (hx : ',' ∉ xs) (hy : ',' ∉ ys)
    (h : xs ++ ',' :: s <+: ys ++ ',' :: t) : xs = ys := by
  induction xs generalizing ys with
  | nil =>
    cases ys with
    | nil => rfl
    | cons c ys =>
      -- A longer text would have the comma of the shorter one in it.
      obtain ⟨hc, -⟩ := List.cons_prefix_cons.mp h
      exact absurd (hc ▸ List.mem_cons_self) hy
  | cons c xs ih =>
    cases ys with
    | nil =>
      obtain ⟨hc, -⟩ := List.cons_prefix_cons.mp h
      exact absurd (hc ▸ List.mem_cons_self) hx
    | cons c' ys =>
      obtain ⟨rfl, hrest⟩ := List.cons_prefix_cons.mp h
      rw [ih (List.not_mem_of_not_mem_cons hx) (List.not_mem_of_not_mem_cons hy) hrest]

/-- Values without a comma do not run on. -/
theorem valuesApart_of_no_comma {es : List (String × List String)}
    (h : ∀ e ∈ es, ∀ x ∈ e.2, ',' ∉ x.toList) : ValuesApart es := by
  induction es with
  | nil => trivial
  | cons e es ih =>
    have hrest := ih fun f hf => h f (List.mem_cons_of_mem _ hf)
    cases es with
    | nil => trivial
    | cons f es =>
      refine ⟨fun x hx y hy hr => ?_, hrest⟩
      have hgap : (gap f.1).toList = ',' :: ' ' :: (displayName f.1 ++ ": ").toList := by
        simp [gap]
      unfold RunsOn at hr
      rw [String.toList_append, String.toList_append, hgap] at hr
      exact String.toList_inj.mp (eq_of_comma (h e List.mem_cons_self x hx)
        (h e List.mem_cons_self y hy) hr)

/-! ## Filters -/

/-- If the values of each name are distinct, choices with one label are mistakable. -/
theorem pairwise_mistakable_choices {es : List (String × List String)}
    (hn : (es.map Prod.fst).Nodup) (hv : ∀ e ∈ es, e.2.Nodup) :
    (choices es).Pairwise fun row row' =>
      Combination.label ⟨row⟩ = Combination.label ⟨row'⟩ → Mistakable row row' := by
  have hdiffer : (choices es).Pairwise (DifferBy fun _ x y => x ≠ y) := pairwise_choices hv
  refine hdiffer.imp_of_mem ?_
  rintro row row' hrow hrow' ⟨name, x, y, hx, hy, hxy⟩ hlabel
  have hnames := (map_fst_of_mem_choices hrow).trans (map_fst_of_mem_choices hrow').symm
  rcases eq_or_mistakable_of_label_eq hnames hlabel with rfl | hm
  · have hrown : (row.map Prod.fst).Nodup := map_fst_of_mem_choices hrow ▸ hn
    exact absurd (Prod.mk.inj (List.inj_on_of_nodup_map hrown hx hy rfl)).2 hxy
  · exact hm

namespace FilterSpec

variable {spec : FilterSpec} {combinable : List String}

theorem mem_choices_of_mem_combinations (hid : spec.exactId? = none) {c : Combination}
    (hc : c ∈ spec.combinations combinable) :
    c.assignments ∈ choices (spec.crossed combinable) := by
  rw [combinations_eq_choices hid] at hc
  split at hc
  · cases hc
  · obtain ⟨row, hrow, rfl⟩ := List.mem_map.mp hc
    exact hrow

/-- Combinations of a filter with distinct values that have one label are mistakable. -/
theorem pairwise_mistakable (combinable : List String) (hv : ∀ e ∈ spec.entries, e.2.Nodup) :
    (spec.combinations combinable).Pairwise fun c c' =>
      c.label = c'.label → Mistakable c.assignments c'.assignments := by
  cases hid : spec.exactId? with
  | some id =>
    -- A registration number has one combination.
    simp only [combinations, hid]
    exact List.pairwise_singleton _ _
  | none =>
    rw [combinations_eq_choices hid]
    split
    · exact .nil
    · exact List.pairwise_map.mpr (pairwise_mistakable_choices (nodup_crossed spec combinable)
        fun e he => hv e (List.mem_of_mem_filter he))

/-- Two of the combinations of a filter with distinct values have one label only if, in the first
dimension in which they differ, one value runs on into the other. Without such values, and so
without commas, all labels are distinct. -/
theorem labels_distinct (spec : FilterSpec) (combinable : List String)
    (hv : ∀ e ∈ spec.entries, e.2.Nodup) :
    ((spec.combinations combinable).Pairwise fun c c' =>
      c.label = c'.label → Mistakable c.assignments c'.assignments) ∧
    (ValuesApart (spec.crossed combinable) →
      ((spec.combinations combinable).map Combination.label).Nodup) ∧
    ((∀ e ∈ spec.crossed combinable, ∀ x ∈ e.2, ',' ∉ x.toList) →
      ((spec.combinations combinable).map Combination.label).Nodup) := by
  have hmistakable := pairwise_mistakable combinable hv
  have hapart (h : ValuesApart (spec.crossed combinable)) :
      ((spec.combinations combinable).map Combination.label).Nodup := by
    refine List.pairwise_map.mpr ?_
    cases hid : spec.exactId? with
    | some id =>
      simp only [combinations, hid]
      exact List.pairwise_singleton _ _
    | none =>
      refine hmistakable.imp_of_mem fun {c c'} hc hc' hm hlabel => ?_
      exact not_mistakable_of_mem_choices h (mem_choices_of_mem_combinations hid hc)
        (mem_choices_of_mem_combinations hid hc') (hm hlabel)
  exact ⟨hmistakable, hapart, fun h => hapart (valuesApart_of_no_comma h)⟩

/-- Two counties and two races have four labels. -/
theorem labels_distinct_counties :
    ((((ofPairs [("county", ["Fulton", "Cobb"]), ("race", ["Black", "White"])]).combinations
      Dimension.combinable).map Combination.label).Nodup) :=
  (labels_distinct (ofPairs [("county", ["Fulton", "Cobb"]), ("race", ["Black", "White"])])
    Dimension.combinable (by decide)).2.2 (by decide)

/-- A county that holds what a label writes before the race is mistaken for a county and a race:
the labels of the first and the last combination are both `County: Fulton, Race: Black, Race:
White`. -/
theorem not_labels_distinct :
    ¬∀ (spec : FilterSpec) (combinable : List String), (∀ e ∈ spec.entries, e.2.Nodup) →
      ((spec.combinations combinable).map Combination.label).Nodup := by
  intro h
  have hlabels := h (ofPairs [("county", ["Fulton", "Fulton, Race: Black"]),
    ("race", ["Black, Race: White", "White"])]) Dimension.combinable (by decide)
  rw [combinations_eq_choices (by decide)] at hlabels
  exact absurd hlabels (by decide +kernel)

end FilterSpec

end Electorate
