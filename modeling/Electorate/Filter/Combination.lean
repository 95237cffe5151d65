import Electorate.Filter.Error
import Electorate.Filter.Spec
import Electorate.Text.Case

/-!
# Combinations of filter values

* `Combination`: one value for each of several dimensions.
* `Dial`, `turn`, `rows`: an odometer over the values of several dimensions.
* `product`: every choice of one value per dimension, the first dimension varying slowest.
* `FilterSpec.combinations`: the combinations of the dimensions that a chart crosses.
* `chartCombinations`: the same within the limits that a chart sets.
* `displayName`: a dimension name as words.
-/

namespace Electorate

/-- Puts a space before each capital ASCII letter. -/
def spaceCapitals (cs : List Char) : List Char :=
  cs.flatMap fun c => if c.isUpper then [' ', c] else [c]

/-- A dimension name as words: a space before each capital but a leading one, and the first
character in upper case. -/
def displayName (name : String) : String :=
  match name.toList with
  | [] => ""
  | c :: cs => Text.upperFirst (String.ofList (c :: spaceCapitals cs))

/-- One value for each of several dimensions, in order. -/
structure Combination where
  /-- Dimension names with their values. -/
  assignments : List (String × String)
deriving DecidableEq, Repr

namespace Combination

/-- The display label: names and values in order. -/
def label (c : Combination) : String :=
  Text.joinWith ", " (c.assignments.map fun (name, value) => displayName name ++ ": " ++ value)

/-- The value of each name; the last assignment of a name counts. -/
def filters (c : Combination) : List (String × String) :=
  c.assignments.foldl (fun l (name, value) => Entries.put name value l) []

/-- The specification that selects the assigned values. -/
def toSpec (c : Combination) : FilterSpec :=
  FilterSpec.ofPairs (c.assignments.map fun (name, value) => (name, [value]))

/-- The values as replacements in a specification. -/
def override (c : Combination) : List (String × List String) :=
  c.filters.map fun (name, value) => (name, [value])

end Combination

/-! ## The odometer -/

/-- A dial: a name with its values and the place of the value that it shows. -/
structure Dial where
  /-- Dimension name. -/
  name : String
  /-- The values, in the order in which the dial shows them. -/
  values : List String
  /-- The place of the value that is shown. -/
  index : Nat
  /-- There is a value at this place. -/
  index_lt : index < values.length

namespace Dial

/-- A dial at its first value. -/
def start (e : String × List String) (h : e.2 ≠ []) : Dial :=
  ⟨e.1, e.2, 0, List.length_pos_iff.mpr h⟩

/-- The name with the value that is shown. -/
def shown (d : Dial) : String × String := (d.name, d.values.get ⟨d.index, d.index_lt⟩)

/-- The dial at its first value again. -/
def back (d : Dial) : Dial :=
  { d with index := 0, index_lt := Nat.lt_of_le_of_lt (Nat.zero_le _) d.index_lt }

/-- The dial at its next value. -/
def next (d : Dial) (h : d.index + 1 < d.values.length) : Dial :=
  { d with index := d.index + 1, index_lt := h }

end Dial

/-- One turn of the dials, the fastest first. A dial with a next value shows it; one without goes
back to its first value and turns the dial behind it. After the last row there is no turn. -/
def turn : List Dial → Option (List Dial)
  | [] => none
  | d :: ds =>
    if h : d.index + 1 < d.values.length then some (d.next h :: ds)
    else (turn ds).map (d.back :: ·)

/-- The number of turns up to the last row. -/
def turnsLeft : List Dial → Nat
  | [] => 0
  | d :: ds => (d.values.length - 1 - d.index) + d.values.length * turnsLeft ds

/-- A turn is one of those that are left. -/
theorem turnsLeft_turn {dials next : List Dial} (h : turn dials = some next) :
    turnsLeft dials = turnsLeft next + 1 := by
  induction dials generalizing next with
  | nil => cases h
  | cons d ds ih =>
    have hd := d.index_lt
    unfold turn at h
    split at h
    · next hn =>
      cases h
      simp only [turnsLeft, Dial.next]
      omega
    · obtain ⟨ds', hds, rfl⟩ := Option.map_eq_some_iff.mp h
      simp only [turnsLeft, Dial.back, ih hds, Nat.mul_succ]
      omega

/-- The row that the dials show, the slowest dial first. -/
def shownRow (dials : List Dial) : List (String × String) := (dials.map Dial.shown).reverse

/-- The rows from the one that is shown to the last one. -/
def rows (dials : List Dial) : List (List (String × String)) :=
  shownRow dials ::
    match _ : turn dials with
    | none => []
    | some next => rows next
termination_by turnsLeft dials
decreasing_by
  rename_i h
  rw [turnsLeft_turn h]
  exact Nat.lt_succ_self _

/-- Every choice of one value per dimension; none if no dimension is selected. -/
def product (spec : FilterSpec) : List Combination :=
  if spec.entries.isEmpty then []
  else (rows (spec.entries.pmap Dial.start spec.values_ne_nil).reverse).map Combination.mk

namespace FilterSpec

/-- The combinations of the dimensions in `combinable`, or the one that asks for a registration
number if the specification does. -/
def combinations (spec : FilterSpec) (combinable : List String) : List Combination :=
  match spec.exactId? with
  | some id => [⟨[(Dimension.exactId.name, id)]⟩]
  | none => product (spec.restrict combinable)

/-- The number of combinations, without building them. -/
def combinationCount (spec : FilterSpec) (combinable : List String) : Nat :=
  match spec.exactId? with
  | some _ => 1
  | none =>
    let crossed := (spec.restrict combinable).entries
    if crossed.isEmpty then 0
    else (crossed.map fun (_, values) => values.length).foldr (· * ·) 1

end FilterSpec

/-- Why a chart is not drawn. -/
inductive ChartError where
  /-- No dimension that a chart crosses has a value. -/
  | nothingSelected
  /-- The filter is refused. -/
  | refused (error : FilterError)
deriving DecidableEq, Repr

/-- The wording for a chart without a selection. -/
def nothingSelectedMessage : String := "Please select filter options to generate the chart."

/-- The combinations of a chart, at most `limit` of them. -/
def chartCombinations (spec : FilterSpec) (combinable : List String) (limit : Option Int) :
    Except ChartError (List Combination) :=
  let count := spec.combinationCount combinable
  if count = 0 then .error .nothingSelected
  else
    match limit with
    | some most =>
      if most < count then .error (.refused (.tooManyCombinations count most))
      else .ok (spec.combinations combinable)
    | none => .ok (spec.combinations combinable)

end Electorate
