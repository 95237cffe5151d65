import Electorate.Entries
import Electorate.Filter.Dimension
import Electorate.Text.Blank
import Electorate.Text.Quoted
import Electorate.Text.Split

/-!
# Filter specifications

A specification says which values are selected in which dimension. Values of one dimension are
alternatives, dimensions are conditions that hold together.

* `FilterSpec`: dimension names in order of first appearance, each once, each with at least one
  value.
* `ofPairs`: values given for one name in several places are collected under its first place.
* `restrict`, `without`, `merge`: selection by name and replacement of values.
* `exactId?`: the registration number that overrides all other conditions.
-/

namespace Electorate

/-- The values selected for each dimension name. -/
structure FilterSpec where
  /-- Names with their selected values, in order of first appearance. -/
  entries : List (String × List String)
  /-- No name occurs twice. -/
  names_nodup : (entries.map Prod.fst).Nodup
  /-- No name is without a value. -/
  values_ne_nil : ∀ e ∈ entries, e.2 ≠ []

namespace FilterSpec

/-- Adds values under a name: behind the values it has, or as a new last entry. -/
def addTo (name : String) (values : List String) :
    List (String × List String) → List (String × List String) :=
  Entries.change name values (· ++ values)

/-- Puts values in place of those of a name, or as a new last entry. -/
def putIn (name : String) (values : List String) :
    List (String × List String) → List (String × List String) :=
  Entries.put name values

theorem addTo_ne_nil {name : String} {values : List String} {l : List (String × List String)}
    (hv : values ≠ []) (h : ∀ e ∈ l, e.2 ≠ []) : ∀ e ∈ addTo name values l, e.2 ≠ [] :=
  Entries.forall_change (P := (· ≠ [])) hv (fun _ _ => List.append_ne_nil_of_right_ne_nil _ hv) h

/-- The specification that selects nothing. -/
def empty : FilterSpec := ⟨[], by simp, by simp⟩

/-- Adds values under a name; no values leave the specification as it is. -/
def add (spec : FilterSpec) (name : String) (values : List String) : FilterSpec :=
  if h : values = [] then spec
  else ⟨addTo name values spec.entries, Entries.nodup_change spec.names_nodup,
    addTo_ne_nil h spec.values_ne_nil⟩

/-- The specification of names and values in order. -/
def ofPairs (pairs : List (String × List String)) : FilterSpec :=
  pairs.foldl (fun spec (name, values) => spec.add name values) empty

/-- The names, in order. -/
def names (spec : FilterSpec) : List String := spec.entries.map Prod.fst

/-- The values selected under a name. -/
def get? (spec : FilterSpec) (name : String) : Option (List String) := spec.entries.lookup name

/-- Whether a name constrains anything. -/
def has (spec : FilterSpec) (name : String) : Bool := spec.names.contains name

/-- The first value selected under a name. -/
def first? (spec : FilterSpec) (name : String) : Option String := (spec.get? name).bind List.head?

/-- The number of names. -/
def size (spec : FilterSpec) : Nat := spec.entries.length

/-- The registration number that is asked for, if one is that is not blank. -/
def exactId? (spec : FilterSpec) : Option String :=
  match spec.first? Dimension.exactId.name with
  | none => none
  | some value =>
    let id := Text.strip value
    if id.isEmpty then none else some id

/-- The entries that a test accepts. -/
def filter (spec : FilterSpec) (keep : String × List String → Bool) : FilterSpec :=
  ⟨spec.entries.filter keep,
    spec.names_nodup.sublist (List.filter_sublist.map _),
    fun e he => spec.values_ne_nil e (List.mem_filter.1 he).1⟩

/-- Only the given names, in the order of the specification. -/
def restrict (spec : FilterSpec) (wanted : List String) : FilterSpec :=
  spec.filter fun e => wanted.contains e.1

/-- All but the given names. -/
def without (spec : FilterSpec) (dropped : List String) : FilterSpec :=
  spec.filter fun e => !dropped.contains e.1

/-- The entries after replacements, among them names left without a value. -/
def mergedEntries (entries override : List (String × List String)) :
    List (String × List String) :=
  override.foldl (fun l (name, values) => putIn name values l) entries

theorem mergedEntries_nodup {entries override : List (String × List String)}
    (h : (entries.map Prod.fst).Nodup) :
    ((mergedEntries entries override).map Prod.fst).Nodup := by
  induction override generalizing entries with
  | nil => exact h
  | cons e rest ih => exact ih (Entries.nodup_put h)

/-- Replaces the values of every name in `override`. A name of the specification keeps its place,
a new one comes last, and one that is left without a value disappears. -/
def merge (spec : FilterSpec) (override : List (String × List String)) : FilterSpec :=
  ⟨(mergedEntries spec.entries override).filter fun e => !e.2.isEmpty,
    (mergedEntries_nodup spec.names_nodup).sublist (List.filter_sublist.map _),
    fun e he => by
      have := (List.mem_filter.1 he).2
      intro h
      simp [h] at this⟩

/-- Whether two specifications select the same values under the same names, in any order of the
names. -/
def sameAs (a b : FilterSpec) : Bool :=
  a.size == b.size && a.entries.all fun (name, values) => b.get? name == some values

/-- Values between round brackets, a single one followed by a comma. -/
def valuesText : List String → String
  | [v] => "(" ++ Text.quoted v ++ ",)"
  | vs => "(" ++ Text.joinWith ", " (vs.map Text.quoted) ++ ")"

/-- The written form of a specification in messages. -/
def text (spec : FilterSpec) : String :=
  let entry (e : String × List String) := Text.quoted e.1 ++ ": " ++ valuesText e.2
  "FilterSpec(\x7b" ++ Text.joinWith ", " (spec.entries.map entry) ++ "\x7d)"

end FilterSpec

end Electorate
