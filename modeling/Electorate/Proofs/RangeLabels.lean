import Electorate.Proofs.Alternatives
import Electorate.Proofs.BracketTables
import Electorate.Sql.Render

/-!
# Ranges as groups and as filters

A snapshot labels each voter with a range of ages or of scores, and a filter selects the voters of
such a range. Both read the same table: the label by the first condition that is true of the row,
the filter by the one condition of its value.

* `LabelCase.label`: the label of a row. Where no row satisfies two conditions, it is the label of
  the condition that the row satisfies (`LabelCase.label_eq_some_iff`).
* `findBracket?_of_name`, `findAgeBucket?_of_key`: what a value that names a range finds. For scores
  letter case does not count (`NumericBracket.isNamedBy_of_lowerAscii`).
* `LabelsAsFiltered`: rows are labelled with a range exactly if its filter selects them.
* `labels_as_filtered`: this holds for the tables of ages and of scores.
-/

namespace Electorate

open Electorate.Sql Electorate.Sql.Predicate

/-! ## Labels -/

namespace Sql.LabelCase

/-- The label of a row: that of the first condition that is true of it. -/
def label (c : LabelCase) (w : World) (v : Voter) : Option String :=
  (c.branches.find? fun branch => Selects w v branch.1).map Prod.snd

variable {α : Type} {table : List α} {condition : α → Predicate} {name : α → String} {a : α}
  {w : World} {v : Voter}

theorem label_of_table :
    label ⟨table.map fun a => (condition a, name a)⟩ w v =
      (table.find? fun a => Selects w v (condition a)).map name := by
  rw [label, List.find?_map, Option.map_map]
  rfl

/-- A row has no label if no condition is true of it. -/
theorem label_eq_none_iff :
    label ⟨table.map fun a => (condition a, name a)⟩ w v = none ↔
      ∀ a ∈ table, ¬Selects w v (condition a) := by
  rw [label_of_table, Option.map_eq_none_iff, List.find?_eq_none]
  simp only [decide_eq_true_eq]

/-- Where no row satisfies two conditions, the label tells which one the row satisfies. -/
theorem label_eq_some_iff
    (hapart : table.Pairwise fun a b => ¬(Selects w v (condition a) ∧ Selects w v (condition b)))
    (hnames : (table.map name).Nodup) (ha : a ∈ table) :
    label ⟨table.map fun a => (condition a, name a)⟩ w v = some (name a) ↔
      Selects w v (condition a) := by
  rw [label_of_table, Option.map_eq_some_iff]
  constructor
  · rintro ⟨b, hb, hname⟩
    obtain rfl := List.inj_on_of_nodup_map hnames (List.mem_of_find?_eq_some hb) ha hname
    simpa using List.find?_some hb
  · intro h
    refine ⟨a, find?_eq_some_of_apart (hapart.imp fun {a b} hab => ?_) ha (decide_eq_true h), rfl⟩
    simpa using hab

end Sql.LabelCase

/-! ## Names of ranges -/

namespace Text

theorem toLower_of_le {c : Char} (h : 0x80 ≤ c.toNat) : c.toLower = c := by
  refine dif_neg ?_
  rintro ⟨-, hle⟩
  exact absurd (h.trans (UInt32.le_iff_toNat_le.mp hle)) (by decide)

theorem foldChar_toLower (c : Char) : foldChar c.toLower = foldChar c := by
  have hascii : ∀ n < 0x80, foldChar (Char.ofNat n).toLower = foldChar (Char.ofNat n) := by decide
  rcases Nat.lt_or_ge c.toNat 0x80 with h | h
  · have hc := hascii c.toNat h
    rwa [Char.ofNat_toNat] at hc
  · rw [toLower_of_le h]

/-- Folding undoes what lower case does to ASCII letters. -/
theorem fold_lowerAscii (s : String) : fold (lowerAscii s) = fold s := by
  simp only [fold, lowerAscii, String.toList_ofList, List.flatMap_map, foldChar_toLower]

end Text

namespace NumericBracket

variable {b : NumericBracket} {x : String}

/-- The folded texts that name a bracket. -/
def names (b : NumericBracket) : List String := [Text.fold b.key, Text.fold b.label]

theorem isNamedBy_iff : b.isNamedBy x = true ↔ Text.fold (Text.strip x) ∈ b.names := by
  simp [isNamedBy, names]

/-- The key and the label of a bracket name it with any of their letters in upper case. -/
theorem isNamedBy_of_lowerAscii {name : String} (hname : name = b.key ∨ name = b.label)
    (hx : Text.lowerAscii (Text.strip x) = Text.lowerAscii name) : b.isNamedBy x = true := by
  have hfold : Text.fold (Text.strip x) = Text.fold name := by
    rw [← Text.fold_lowerAscii, hx, Text.fold_lowerAscii]
  rw [isNamedBy_iff, hfold]
  rcases hname with rfl | rfl
  · exact List.mem_cons_self
  · exact List.mem_cons_of_mem _ List.mem_cons_self

end NumericBracket

section

variable {x : String}

/-- In a table whose brackets have no name in common, a value finds the bracket it names. -/
theorem findBracket?_of_name {table : List NumericBracket} {b : NumericBracket}
    (h : table.Pairwise fun a b => ∀ name ∈ a.names, name ∉ b.names) (hb : b ∈ table)
    (hx : b.isNamedBy x = true) : findBracket? table x = some b := by
  refine find?_eq_some_of_apart (h.imp fun {a b} hab => ?_) hb hx
  rintro ⟨ha, hb⟩
  exact hab _ (NumericBracket.isNamedBy_iff.mp ha) (NumericBracket.isNamedBy_iff.mp hb)

theorem findAgeBucket?_of_key {b : AgeBucket} (hb : b ∈ ageBuckets) (hx : b.key = Text.strip x) :
    findAgeBucket? x = some b := by
  have hkeys : ageBuckets.Pairwise fun a b => a.key ≠ b.key := by decide
  refine find?_eq_some_of_apart (hkeys.imp fun {a b} hne => ?_) hb (beq_iff_eq.mpr hx)
  rintro ⟨ha, hb⟩
  exact hne ((beq_iff_eq.mp ha).trans (beq_iff_eq.mp hb).symm)

theorem scoreRanges_names : scoreRanges.Pairwise fun a b => ∀ name ∈ a.names, name ∉ b.names := by
  decide

end

/-! ## Filters of one range -/

namespace FilterSpec

variable {α : Type} {x : String} {year : Int} {w : World} {v : Voter}

theorem exists_read_singleton {read : String → Option α} {P : α → Prop} {a : α}
    (h : read x = some a) : (∃ y ∈ [x], ∃ b, read y = some b ∧ P b) ↔ P a := by
  simp [h]

/-- The filter of a key sets the condition of its ages. -/
theorem selects_single_ageRange {b : AgeBucket} (hb : b ∈ ageBuckets)
    (hx : b.key = Text.strip x) :
    Selects w v ((single .ageRange [x]).predicate year) ↔ Selects w v (ofAgeBucket b year) := by
  have hfound := findAgeBucket?_of_key hb hx
  have hC : Dimension.ageRange.Constrains (single .ageRange [x]) [x] :=
    ⟨x, List.mem_singleton_self x, Option.isSome_of_eq_some hfound⟩
  rw [selects_single_iff (by decide) (List.cons_ne_nil x []), imp_iff_right hC,
    selects_ofAgeBucket]
  exact exists_read_singleton hfound

/-- The filter of a key or a label sets the condition of its scores. -/
theorem selects_single_scoreRange {b : NumericBracket} (hb : b ∈ scoreRanges)
    (hx : b.isNamedBy x = true) :
    Selects w v ((single .scoreRange [x]).predicate year) ↔ Selects w v (ofBracket .score b) := by
  have hfound := findBracket?_of_name scoreRanges_names hb hx
  have hC : Dimension.scoreRange.Constrains (single .scoreRange [x]) [x] :=
    ⟨x, List.mem_singleton_self x, Option.isSome_of_eq_some hfound⟩
  rw [selects_single_iff (by decide) (List.cons_ne_nil x []), imp_iff_right hC,
    selects_ofBracket (isRational_of_findBracket? (by decide) hfound)]
  exact exists_read_singleton hfound

end FilterSpec

/-! ## Labels and filters -/

/-- The rows of a table label a voter as the filters of a dimension select it. A range gives the
label `name`, and a filter asks for it by any of the texts that `Names` lists. -/
structure LabelsAsFiltered {α : Type} (c : LabelCase) (d : Dimension) (table : List α)
    (name : α → String) (Names : α → String → Prop) (year : Int) (w : World) (v : Voter) :
    Prop where
  /-- The voter has the label of a range exactly if the filter of the range selects it. -/
  labelled_iff : ∀ a ∈ table, ∀ x, Names a x →
    (c.label w v = some (name a) ↔ Selects w v ((FilterSpec.single d [x]).predicate year))
  /-- The voter has no label exactly if no filter of a range selects it. -/
  unlabelled_iff : c.label w v = none ↔ ∀ a ∈ table, ∀ x, Names a x →
    ¬Selects w v ((FilterSpec.single d [x]).predicate year)
  /-- Filters of two ranges do not select the same voter. -/
  selected_once : ∀ a ∈ table, ∀ b ∈ table, ∀ x y, Names a x → Names b y →
    Selects w v ((FilterSpec.single d [x]).predicate year) →
    Selects w v ((FilterSpec.single d [y]).predicate year) → a = b

section

variable {α : Type} {d : Dimension} {table : List α} {condition : α → Predicate}
  {name : α → String} {Names : α → String → Prop} {year : Int} {w : World} {v : Voter}

/-- Ranges with no value in common are not asked for the same value, if there is one. -/
theorem pairwise_apart_of_value {β : Type} {Lies : α → β → Prop} (value : Option β)
    (h : ∀ x, table.Pairwise fun a b => ¬(Lies a x ∧ Lies b x)) :
    table.Pairwise fun a b =>
      ¬((∃ x, value = some x ∧ Lies a x) ∧ ∃ x, value = some x ∧ Lies b x) := by
  cases value with
  | none => exact List.pairwise_of_forall (by simp)
  | some x => simpa using h x

/-- Ranges with nothing in common, each with a name of its own, when labels and filters set the
same conditions. -/
theorem LabelsAsFiltered.of_apart
    (hfilter : ∀ a ∈ table, ∀ x, Names a x →
      (Selects w v ((FilterSpec.single d [x]).predicate year) ↔ Selects w v (condition a)))
    (hname : ∀ a ∈ table, Names a (name a)) (hnames : (table.map name).Nodup)
    (hapart : table.Pairwise fun a b =>
      ¬(Selects w v (condition a) ∧ Selects w v (condition b))) :
    LabelsAsFiltered ⟨table.map fun a => (condition a, name a)⟩ d table name Names year w v where
  labelled_iff a ha x hx :=
    (LabelCase.label_eq_some_iff hapart hnames ha).trans (hfilter a ha x hx).symm
  unlabelled_iff := by
    rw [LabelCase.label_eq_none_iff]
    constructor
    · intro h a ha x hx hsel
      exact h a ha ((hfilter a ha x hx).mp hsel)
    · -- A range whose condition is true would be selected under its own name.
      intro h a ha hsel
      exact h a ha (name a) (hname a ha) ((hfilter a ha _ (hname a ha)).mpr hsel)
  selected_once a ha b hb x y hx hy hsel hsel' :=
    eq_of_apart hapart ha hb ((hfilter a ha x hx).mp hsel) ((hfilter b hb y hy).mp hsel')

end

/-- Voters are labelled with a range of ages or of scores as filters select them. Ages are asked for
by their key, scores by their key or label, in any letter case. -/
theorem labels_as_filtered (year : Int) (w : World) (v : Voter) :
    LabelsAsFiltered (ageCase year) .ageRange ageBuckets AgeBucket.key
      (fun b x => b.key = Text.strip x) year w v ∧
    LabelsAsFiltered scoreCase .scoreRange scoreRanges NumericBracket.label
      (fun b x => b.isNamedBy x = true) year w v ∧
    ∀ b ∈ scoreRanges, ∀ x name, name = b.key ∨ name = b.label →
      Text.lowerAscii (Text.strip x) = Text.lowerAscii name → b.isNamedBy x = true := by
  refine ⟨.of_apart ?_ (by decide) (by decide) ?_, .of_apart ?_ (by decide) (by decide) ?_, ?_⟩
  · intro b hb x hx
    exact FilterSpec.selects_single_ageRange hb hx
  · simp only [selects_ofAgeBucket]
    exact pairwise_apart_of_value v.birthYear fun _ => ageBuckets_apart
  · intro b hb x hx
    exact FilterSpec.selects_single_scoreRange hb hx
  · have hrational : ∀ b ∈ scoreRanges, b.isRational = true := by decide
    refine List.Pairwise.imp_of_mem (fun {a b} ha hb hab => ?_)
      (pairwise_apart_of_value v.score fun q => scoreRanges_apart (q := q))
    rw [selects_ofBracket (hrational a ha), selects_ofBracket (hrational b hb)]
    exact hab
  · intro b _ x name hname hx
    exact NumericBracket.isNamedBy_of_lowerAscii hname hx

/-- A voter of 60 years with a score of six and a half. -/
def powerVoter : Voter := { (default : Voter) with birthYear := some 1964, score := some (13 / 2) }

/-- The labels of that voter, and filters that select it. -/
theorem labels_as_filtered_powerVoter :
    (ageCase 2024).label default powerVoter = some "45-64" ∧
    Selects default powerVoter ((FilterSpec.single .ageRange [" 45-64"]).predicate 2024) ∧
    scoreCase.label default powerVoter = some "Power Voter" ∧
    Selects default powerVoter
      ((FilterSpec.single .scoreRange ["POWER Voter"]).predicate 2024) := by
  obtain ⟨hages, hscores, hnames⟩ := labels_as_filtered 2024 default powerVoter
  have hage : (ageCase 2024).label default powerVoter = some "45-64" := by decide
  have hscore : scoreCase.label default powerVoter = some "Power Voter" := by decide +kernel
  have hpower : scoreRange "power_voter" "Power Voter" 65 99 ∈ scoreRanges := by simp [scoreRanges]
  have hnamed := hnames _ hpower "POWER Voter" "Power Voter" (.inr rfl) (by decide)
  exact ⟨hage, (hages.labelled_iff ⟨"45-64", 45, some 64⟩ (by decide) _ (by decide)).mp hage,
    hscore, (hscores.labelled_iff _ hpower _ hnamed).mp hscore⟩

end Electorate
