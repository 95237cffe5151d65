import Electorate.Proofs.FilterSpec
import Mathlib.Data.List.Forall2
import Mathlib.Data.List.Induction
import Mathlib.Data.List.Lex

/-!
# The odometer of combinations

The odometer turns through every choice of one value per dimension and stops.

* `choices`: every choice, by recursion on the dimensions; `tuples`: the same by place.
* `mem_tuples_iff`, `pairwise_tuples`: a tuple has one place per dimension, every such tuple occurs,
  and they stand in lexicographic order, so that none occurs twice.
* `rows_cons`: what is left of a fast dial, then all its values for every later row of the others.
* `rows_start`: from the first row on, the rows are the choices.
* `FilterSpec.combinations_eq_product`: the combinations of a filter, their number, and the limit
  that a chart sets.
-/

namespace Electorate

/-! ## Choices -/

/-- Every choice of one value for each name, the first name varying slowest. Without a name there
is the one empty choice. -/
def choices : List (String × List String) → List (List (String × String))
  | [] => [[]]
  | (name, values) :: es => values.flatMap fun value => (choices es).map ((name, value) :: ·)

/-- Every choice of one place for each name, the first name varying slowest. -/
def tuples : List (String × List String) → List (List Nat)
  | [] => [[]]
  | (_, values) :: es => (List.range values.length).flatMap fun i => (tuples es).map (i :: ·)

/-- The values at the places of a tuple. -/
def pick (es : List (String × List String)) (t : List Nat) : List (String × String) :=
  List.zipWith (fun e i => (e.1, e.2.getD i "")) es t

/-- A tuple has a place for each name, and the name has a value there. -/
def IsTuple (es : List (String × List String)) (t : List Nat) : Prop :=
  List.Forall₂ (fun e i => i < e.2.length) es t

variable {es : List (String × List String)}

theorem choices_eq_map_pick (es : List (String × List String)) :
    choices es = (tuples es).map (pick es) := by
  induction es with
  | nil => rfl
  | cons e es ih =>
    obtain ⟨name, values⟩ := e
    have hv : values = (List.range values.length).map (values.getD · "") := by
      apply List.ext_getElem (by simp)
      intro i hi _
      simp [List.getElem?_eq_getElem hi]
    simp only [choices, tuples, List.map_flatMap, List.map_map]
    conv => lhs; rw [hv]
    rw [List.flatMap_map]
    refine List.flatMap_congr fun i _ => ?_
    rw [ih, List.map_map]
    rfl

theorem mem_tuples_iff {t : List Nat} : t ∈ tuples es ↔ IsTuple es t := by
  induction es generalizing t with
  | nil => simp [tuples, IsTuple]
  | cons e es ih =>
    obtain ⟨name, values⟩ := e
    unfold IsTuple at ih ⊢
    simp only [tuples, List.mem_flatMap, List.mem_range, List.mem_map, ih,
      List.forall₂_cons_left_iff]
    constructor
    · rintro ⟨i, hi, t, ht, rfl⟩
      exact ⟨i, t, hi, ht, rfl⟩
    · rintro ⟨i, t, hi, ht, rfl⟩
      exact ⟨i, hi, t, ht, rfl⟩

/-- Tuples stand in lexicographic order. -/
theorem pairwise_tuples (es : List (String × List String)) : (tuples es).Pairwise (· < ·) := by
  induction es with
  | nil => exact List.pairwise_singleton _ _
  | cons e es ih =>
    unfold tuples
    rw [List.pairwise_flatMap]
    constructor
    · intro i _
      rw [List.pairwise_map]
      exact ih.imp fun h => List.cons_lt_cons_iff.mpr (.inr ⟨rfl, h⟩)
    · refine List.pairwise_lt_range.imp fun hij s hs t ht => ?_
      obtain ⟨_, _, rfl⟩ := List.mem_map.mp hs
      obtain ⟨_, _, rfl⟩ := List.mem_map.mp ht
      exact List.cons_lt_cons_iff.mpr (.inl hij)

theorem length_choices (es : List (String × List String)) :
    (choices es).length = (es.map fun (_, values) => values.length).foldr (· * ·) 1 := by
  induction es with
  | nil => rfl
  | cons e es ih => simp [choices, List.length_flatMap, ih]

/-- A choice has a value of every name. -/
theorem mem_choices_iff {row : List (String × String)} :
    row ∈ choices es ↔ List.Forall₂ (fun e a => a.1 = e.1 ∧ a.2 ∈ e.2) es row := by
  induction es generalizing row with
  | nil => simp [choices]
  | cons e es ih =>
    obtain ⟨name, values⟩ := e
    simp only [choices, List.mem_flatMap, List.mem_map, ih, List.forall₂_cons_left_iff]
    constructor
    · rintro ⟨value, hv, row, hr, rfl⟩
      exact ⟨_, row, ⟨rfl, hv⟩, hr, rfl⟩
    · rintro ⟨⟨_, value⟩, row, ⟨rfl, hv⟩, hr, rfl⟩
      exact ⟨value, hv, row, hr, rfl⟩

/-- Two choices of which the values of some name stand in a relation. -/
def DifferBy (R : String → String → String → Prop) (row row' : List (String × String)) : Prop :=
  ∃ name x y, (name, x) ∈ row ∧ (name, y) ∈ row' ∧ R name x y

/-- If all values of each name stand in a relation, two choices have a name that differs by it. -/
theorem pairwise_choices {R : String → String → String → Prop} {es : List (String × List String)}
    (h : ∀ e ∈ es, e.2.Pairwise (R e.1)) : (choices es).Pairwise (DifferBy R) := by
  induction es with
  | nil => exact List.pairwise_singleton _ _
  | cons e es ih =>
    obtain ⟨name, values⟩ := e
    have hrest := ih fun e he => h e (List.mem_cons_of_mem _ he)
    refine List.pairwise_flatMap.mpr ⟨fun x _ => ?_, ?_⟩
    · -- The first value is the same, so the rest differs.
      rw [List.pairwise_map]
      refine hrest.imp ?_
      rintro row row' ⟨k, y, z, hy, hz, hr⟩
      exact ⟨k, y, z, List.mem_cons_of_mem _ hy, List.mem_cons_of_mem _ hz, hr⟩
    · refine (h (name, values) List.mem_cons_self).imp fun {x y} hxy row hrow row' hrow' => ?_
      obtain ⟨_, -, rfl⟩ := List.mem_map.mp hrow
      obtain ⟨_, -, rfl⟩ := List.mem_map.mp hrow'
      exact ⟨name, x, y, List.mem_cons_self, List.mem_cons_self, hxy⟩

/-- The last name varies fastest. -/
theorem choices_append_singleton (es : List (String × List String)) (e : String × List String) :
    choices (es ++ [e]) =
      (choices es).flatMap fun row => e.2.map fun value => row ++ [(e.1, value)] := by
  induction es with
  | nil => simp [choices, List.map_eq_flatMap]
  | cons e' es ih =>
    simp only [List.cons_append, choices, ih, List.flatMap_assoc, List.map_flatMap,
      List.flatMap_map, List.map_map]
    rfl

/-! ## Rows -/

@[simp] theorem shownRow_cons (d : Dial) (ds : List Dial) :
    shownRow (d :: ds) = shownRow ds ++ [d.shown] := by
  simp [shownRow]

theorem rows_of_turn_eq_none {dials : List Dial} (h : turn dials = none) :
    rows dials = [shownRow dials] := by
  rw [rows]
  split
  · rfl
  · next h' => simp [h] at h'

theorem rows_of_turn_eq_some {dials next : List Dial} (h : turn dials = some next) :
    rows dials = shownRow dials :: rows next := by
  rw [rows]
  split
  · next h' => simp [h] at h'
  · next next' h' =>
    obtain rfl : next = next' := by simpa [h] using h'
    rfl

theorem rows_eq_cons (dials : List Dial) : rows dials = shownRow dials :: (rows dials).tail := by
  rw [rows]
  rfl

/-- The rows while a dial turns and the others stand. -/
def spun (name : String) (values : List String) (row : List (String × String)) :
    List (List (String × String)) :=
  values.map fun value => row ++ [(name, value)]

/-- A dial first shows what it has left; then it starts again behind a turn of the others. -/
theorem rows_cons_of_turn (d : Dial) (ds : List Dial) :
    rows (d :: ds) = spun d.name (d.values.drop d.index) (shownRow ds) ++
      ((turn ds).map fun next => rows (d.back :: next)).getD [] := by
  -- By induction on what the dial has left; the others stand still meanwhile.
  induction h : d.values.length - d.index generalizing d with
  | zero =>
    have := d.index_lt
    omega
  | succ left ih =>
    have hdrop : d.values.drop d.index =
        d.values.get ⟨d.index, d.index_lt⟩ :: d.values.drop (d.index + 1) :=
      List.drop_eq_getElem_cons d.index_lt
    by_cases hn : d.index + 1 < d.values.length
    · have ht : turn (d :: ds) = some (d.next hn :: ds) := by rw [turn, dif_pos hn]
      have hleft : (d.next hn).values.length - (d.next hn).index = left := by
        simp only [Dial.next]
        omega
      rw [rows_of_turn_eq_some ht, ih (d.next hn) hleft, hdrop, shownRow_cons]
      rfl
    · have ht : turn (d :: ds) = (turn ds).map (d.back :: ·) := by rw [turn, dif_neg hn]
      have hlast : d.values.drop (d.index + 1) = [] := List.drop_of_length_le (by omega)
      rw [hdrop, hlast]
      cases hds : turn ds with
      | none =>
        rw [hds, Option.map_none] at ht
        rw [rows_of_turn_eq_none ht, shownRow_cons]
        rfl
      | some next =>
        rw [hds, Option.map_some] at ht
        rw [rows_of_turn_eq_some ht, shownRow_cons]
        rfl

/-- What is left of the fastest dial, and then all its values for each later row of the others. -/
theorem rows_cons (d : Dial) (ds : List Dial) :
    rows (d :: ds) = spun d.name (d.values.drop d.index) (shownRow ds) ++
      (rows ds).tail.flatMap (spun d.name d.values) := by
  -- By induction on the turns of the others: behind each the dial starts from its first value.
  induction h : turnsLeft ds using Nat.strongRecOn generalizing d ds with
  | _ n ih =>
    subst h
    rw [rows_cons_of_turn]
    congr 1
    cases ht : turn ds with
    | none => rw [rows_of_turn_eq_none ht]; rfl
    | some next =>
      have hlt : turnsLeft next < turnsLeft ds := by
        rw [turnsLeft_turn ht]
        exact Nat.lt_succ_self _
      rw [rows_of_turn_eq_some ht, List.tail_cons, rows_eq_cons next, List.flatMap_cons,
        Option.map_some, Option.getD_some, ih _ hlt d.back next rfl]
      rfl

/-- From the first row on, the rows are the choices. -/
theorem rows_start (es : List (String × List String)) (h : ∀ e ∈ es, e.2 ≠ []) :
    rows (es.pmap Dial.start h).reverse = choices es := by
  induction es using List.reverseRecOn with
  | nil => rw [rows_of_turn_eq_none rfl]; rfl
  | append_singleton es e ih =>
    have hes : ∀ e ∈ es, e.2 ≠ [] := fun e he => h e (List.mem_append_left _ he)
    have hrev : ((es ++ [e]).pmap Dial.start h).reverse =
        Dial.start e (h e (by simp)) :: (es.pmap Dial.start hes).reverse := by
      simp [List.pmap_append]
    rw [hrev, rows_cons, choices_append_singleton, ← ih hes, rows_eq_cons (List.reverse _),
      List.flatMap_cons]
    rfl

/-! ## Combinations -/

namespace FilterSpec

variable {spec : FilterSpec} {combinable : List String}

/-- The dimensions that are crossed, in the order of the filter. -/
def crossed (spec : FilterSpec) (combinable : List String) : List (String × List String) :=
  spec.entries.filter fun e => combinable.contains e.1

theorem crossed_eq_nil_iff :
    spec.crossed combinable = [] ↔ ∀ name ∈ combinable, spec.has name = false := by
  unfold crossed
  simp only [List.filter_eq_nil_iff, List.contains_iff_mem, Bool.eq_false_iff, ne_eq, has_iff,
    get?_eq_some_iff, Prod.forall]
  constructor
  · rintro h name hn ⟨values, he⟩
    exact h name values he hn
  · intro h name values he hn
    exact h name hn ⟨values, he⟩

/-- The combinations are the choices of the dimensions that are crossed. -/
theorem combinations_eq_choices (hid : spec.exactId? = none) :
    spec.combinations combinable =
      if spec.crossed combinable = [] then []
      else (choices (spec.crossed combinable)).map Combination.mk := by
  simp only [combinations, hid, product, rows_start, List.isEmpty_iff]
  rfl

theorem combinationCount_eq (hid : spec.exactId? = none) :
    spec.combinationCount combinable =
      if spec.crossed combinable = [] then 0 else (choices (spec.crossed combinable)).length := by
  simp only [combinationCount, hid, length_choices, List.isEmpty_iff]
  rfl

/-- Counting agrees with listing. -/
theorem length_combinations :
    (spec.combinations combinable).length = spec.combinationCount combinable := by
  cases hid : spec.exactId? with
  | some id => simp [combinations, combinationCount, hid]
  | none =>
    rw [combinations_eq_choices hid, combinationCount_eq hid]
    split
    · rfl
    · rw [List.length_map]

theorem choices_ne_nil (hes : ∀ e ∈ es, e.2 ≠ []) : choices es ≠ [] := by
  rw [← rows_start es hes, rows_eq_cons]
  exact List.cons_ne_nil _ _

theorem combinations_eq_nil_iff (hid : spec.exactId? = none) :
    spec.combinations combinable = [] ↔ ∀ name ∈ combinable, spec.has name = false := by
  rw [combinations_eq_choices hid, ← crossed_eq_nil_iff]
  have hc : choices (spec.crossed combinable) ≠ [] :=
    choices_ne_nil fun e he => spec.values_ne_nil e (List.mem_of_mem_filter he)
  split <;> simp [*]

/-! ### Limits -/

variable {limit : Option Int}

theorem chartCombinations_eq_ok_iff {combos : List Combination} :
    chartCombinations spec combinable limit = .ok combos ↔
      1 ≤ spec.combinationCount combinable ∧
        (∀ m, limit = some m → (spec.combinationCount combinable : Int) ≤ m) ∧
        combos = spec.combinations combinable := by
  unfold chartCombinations
  by_cases h0 : spec.combinationCount combinable = 0
  · simp [h0]
  · cases limit with
    | none => simp [h0, eq_comm, Nat.one_le_iff_ne_zero]
    | some most =>
      by_cases hm : most < spec.combinationCount combinable
      · simp [h0, hm]
      · simp [h0, hm, eq_comm, Nat.one_le_iff_ne_zero, Int.not_lt.mp hm]

theorem chartCombinations_of_count_eq_zero (h : spec.combinationCount combinable = 0) :
    chartCombinations spec combinable limit = .error .nothingSelected := by
  simp [chartCombinations, h]

theorem chartCombinations_of_limit_lt {most : Int} (h : 1 ≤ spec.combinationCount combinable)
    (hm : most < spec.combinationCount combinable) :
    chartCombinations spec combinable (some most) =
      .error (.refused (.tooManyCombinations (spec.combinationCount combinable) most)) := by
  simp [chartCombinations, Nat.one_le_iff_ne_zero.mp h, hm]

/-- The combinations of a filter are the product of its crossed dimensions, in lexicographic order
of the places of the values: every tuple of places is there, and none is there twice. They are
counted without being listed, and a chart takes them if there is one and the limit allows them
all. -/
theorem combinations_eq_product (spec : FilterSpec) (combinable : List String)
    (limit : Option Int) :
    (spec.exactId? = none →
      (∃ ts : List (List Nat),
        spec.combinations combinable = ts.map (fun t => ⟨pick (spec.crossed combinable) t⟩) ∧
        ts.Pairwise (· < ·) ∧
        ∀ t, t ∈ ts ↔ spec.crossed combinable ≠ [] ∧ IsTuple (spec.crossed combinable) t) ∧
      (spec.combinations combinable = [] ↔ ∀ name ∈ combinable, spec.has name = false)) ∧
    (spec.combinations combinable).length = spec.combinationCount combinable ∧
    (∀ id, spec.exactId? = some id → spec.combinationCount combinable = 1) ∧
    (∀ combos, chartCombinations spec combinable limit = .ok combos ↔
      1 ≤ spec.combinationCount combinable ∧
        (∀ m, limit = some m → (spec.combinationCount combinable : Int) ≤ m) ∧
        combos = spec.combinations combinable) ∧
    (spec.combinationCount combinable = 0 →
      chartCombinations spec combinable limit = .error .nothingSelected) ∧
    (∀ m, 1 ≤ spec.combinationCount combinable → limit = some m →
      m < spec.combinationCount combinable →
      chartCombinations spec combinable limit =
        .error (.refused (.tooManyCombinations (spec.combinationCount combinable) m))) := by
  refine ⟨fun hid => ⟨?_, combinations_eq_nil_iff hid⟩, length_combinations,
    fun id hid => by simp [combinationCount, hid], fun _ => chartCombinations_eq_ok_iff,
    chartCombinations_of_count_eq_zero, ?_⟩
  · rw [combinations_eq_choices hid]
    by_cases hc : spec.crossed combinable = []
    · exact ⟨[], by simp [hc], List.Pairwise.nil, by simp [hc]⟩
    · refine ⟨tuples (spec.crossed combinable), ?_, pairwise_tuples _, fun t => ?_⟩
      · rw [if_neg hc, choices_eq_map_pick, List.map_map]
        rfl
      · rw [mem_tuples_iff]
        exact ⟨fun ht => ⟨hc, ht⟩, And.right⟩
  · rintro m h rfl hm
    exact chartCombinations_of_limit_lt h hm

/-- The last of two dimensions varies fastest. -/
example : (ofPairs [("status", ["A", "I"]), ("party", ["X"]), ("gender", ["F", "M"])]).combinations
    Dimension.combinable =
      [⟨[("status", "A"), ("gender", "F")]⟩, ⟨[("status", "A"), ("gender", "M")]⟩,
        ⟨[("status", "I"), ("gender", "F")]⟩, ⟨[("status", "I"), ("gender", "M")]⟩] := by
  rw [combinations_eq_choices (by decide)]
  decide

end FilterSpec

end Electorate
