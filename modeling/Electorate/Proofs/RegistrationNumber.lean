import Electorate.Proofs.ChartCover
import Electorate.Proofs.Extraction

/-!
# Filters that ask for a registration number

A registration number that a request asks for is the only condition that it sets, whatever else it
selects.

* `askedNumber?`: the number that parameters ask for.
* `FilterSpec.kept?_exactId`: what one parameter selects under the name of the number.
* `FilterSpec.first?_ofParams`: an accepted request selects that number first.
* `AsksOnlyFor`: all that a filter sets and a chart counts is one number.
* `asksOnlyFor_of_ofParams`: an accepted request that asks for a number asks for nothing else.
-/

namespace Electorate

open Electorate.Sql

/-! ## From a request -/

/-- The registration number that parameters ask for: the first that is not blank. -/
def askedNumber? (params : List (String × String)) : Option String := params.findSome? numberOf?

/-- The number that parameters ask for has no blanks at its ends and is not empty. -/
theorem strip_of_askedNumber? {params : List (String × String)} {id : String}
    (h : askedNumber? params = some id) : Text.strip id = id ∧ id ≠ "" := by
  obtain ⟨param, -, hp⟩ := List.exists_of_findSome?_eq_some h
  obtain ⟨-, hne, rfl⟩ := numberOf?_eq_some_iff.mp hp
  exact ⟨Text.strip_strip _, hne⟩

namespace FilterSpec

variable {spec : FilterSpec} {params : List (String × String)} {allowed ignored : List String}
  {raiseCase : Bool} {id : String}

/-- Under the name of the number, a parameter that is not refused selects the number that it asks
for. -/
theorem kept?_exactId (hread : Dimension.exactId.name ∉ ignored) {param : String × String}
    (h : ¬Refused allowed ignored param) :
    ((kept? ignored raiseCase param).filter (·.1 = Dimension.exactId.name)).map Prod.snd =
      numberOf? param := by
  obtain ⟨name, value⟩ := param
  by_cases hname : name = Dimension.exactId.name
  · subst hname
    cases hk : kept? ignored raiseCase (Dimension.exactId.name, value) with
    | none =>
      have hnormal := ((kept?_eq_none_iff h).mp hk).resolve_left hread
      rw [← hnormal.eq_numberOf?]
      rfl
    | some e =>
      obtain ⟨-, hfst, hnormal⟩ := kept?_eq_some_iff.mp hk
      rw [← hnormal.eq_numberOf?, Option.filter_some, if_pos (decide_eq_true hfst)]
      rfl
  · have hnone : numberOf? (name, value) = none := by simp [numberOf?, hname]
    rw [hnone, Option.map_eq_none_iff, Option.filter_eq_none_iff]
    intro e he
    rw [(kept?_eq_some_iff.mp he).2.1]
    simp [hname]

/-- An accepted request selects first, under the name of the number, the number that it asks for. -/
theorem first?_ofParams (hread : Dimension.exactId.name ∉ ignored)
    (h : ofParams params allowed ignored raiseCase = .ok spec) :
    spec.first? Dimension.exactId.name = askedNumber? params ∧
      ∀ id, askedNumber? params = some id → IsRegistrationNumber id := by
  have hparams := not_refused_of_ofParams h
  have hkept : ((params.filterMap (kept? ignored raiseCase)).filter
      (·.1 = Dimension.exactId.name)).map Prod.snd = params.filterMap numberOf? := by
    rw [List.filter_filterMap, List.map_filterMap]
    exact List.filterMap_congr fun p hp => kept?_exactId hread (hparams p hp)
  constructor
  · rw [(groups_ofParams h).first?_eq, hkept, List.head?_filterMap]
    rfl
  · intro id hid
    obtain ⟨p, hp, hnumber⟩ := List.exists_of_findSome?_eq_some hid
    have hname : p.1 = Dimension.exactId.name := (numberOf?_eq_some_iff.mp hnumber).1
    by_contra hbad
    exact hparams p hp ⟨hname ▸ hread, .inr ⟨id, hnumber, hbad⟩⟩

/-- An accepted request that asks for a number has a filter that does. -/
theorem exactId?_ofParams (hread : Dimension.exactId.name ∉ ignored)
    (h : ofParams params allowed ignored raiseCase = .ok spec)
    (hid : askedNumber? params = some id) : spec.exactId? = some id := by
  obtain ⟨hstrip, hne⟩ := strip_of_askedNumber? hid
  exact exactId?_eq_some_iff.mpr ⟨id, (first?_ofParams hread h).1.trans hid, hstrip, hne⟩

end FilterSpec

/-! ## Nothing else -/

open Chart (combinationPredicate) in
/-- All that a filter sets, and all that a chart of it counts, is one registration number. -/
structure AsksOnlyFor (id : String) (spec : FilterSpec) : Prop where
  constraints : ∀ year,
    spec.constraints year = [⟨.exactId, .equals (.plain .registrationNumber) id⟩]
  /-- Nothing but the voter's own columns is read. -/
  sources : ∀ year, ∀ c ∈ spec.constraints year, c.dimension.sources = []
  predicate : ∀ year, spec.predicate year = .equals (.plain .registrationNumber) id
  /-- The filter of the number alone sets the same. -/
  alone : ∀ year, spec.constraints year =
    (FilterSpec.ofPairs [(Dimension.exactId.name, [id])]).constraints year
  render : ∀ year table, (spec.predicate year).render (tableName table) =
    ⟨tableName table ++ ".voter_registration_number = $1::VARCHAR", [.text id]⟩
  combinations : ∀ crossing,
    spec.combinations crossing = [⟨[(Dimension.exactId.name, id)]⟩]
  combinationCount : ∀ crossing, spec.combinationCount crossing = 1
  /-- The chart asks for the voters of the number, whatever dimensions it crosses. -/
  chart : ∀ year crossing,
    combinationPredicate year (spec.without crossing) ⟨[(Dimension.exactId.name, id)]⟩ =
      .equals (.plain .registrationNumber) id

variable {spec : FilterSpec} {id : String}

theorem constraints_of_exactId? (h : spec.exactId? = some id) (year : Int) :
    spec.constraints year = [⟨.exactId, .equals (.plain .registrationNumber) id⟩] := by
  simp only [FilterSpec.constraints, h]

theorem predicate_of_exactId? (h : spec.exactId? = some id) (year : Int) :
    spec.predicate year = .equals (.plain .registrationNumber) id := by
  rw [FilterSpec.predicate, constraints_of_exactId? h]
  rfl

/-- A text column compared with one value. -/
theorem render_equals (table : String) (c : TextColumn) (value : String) :
    (Predicate.equals (.plain c) value).render table =
      ⟨table ++ "." ++ c.name ++ " = $1::VARCHAR", [.text value]⟩ := by
  have hslot : placeholder 1 (.text value) = "$1::VARCHAR" := rfl
  have hpieces : (Predicate.equals (.plain c) value).pieces table .top =
      [.words (table ++ "." ++ c.name ++ " = "), .slot (.text value)] := rfl
  show assemble ((Predicate.equals (.plain c) value).pieces table .top) = _
  rw [hpieces]
  simp [assemble, numberedText, slotBounds, listBounds, hslot, String.append_assoc]

theorem asksOnlyFor_of_exactId? (h : spec.exactId? = some id) : AsksOnlyFor id spec where
  constraints := constraints_of_exactId? h
  sources := fun year => by
    rw [constraints_of_exactId? h]
    simp [Dimension.sources]
  predicate := predicate_of_exactId? h
  alone := fun year => by
    obtain ⟨value, -, rfl, hne⟩ := FilterSpec.exactId?_eq_some_iff.mp h
    rw [constraints_of_exactId? h, constraints_of_exactId?]
    exact FilterSpec.exactId?_eq_some_iff.mpr ⟨_, rfl, Text.strip_strip value, hne⟩
  render := fun year table => by
    rw [predicate_of_exactId? h, render_equals]
    simp [TextColumn.name, String.append_assoc]
  combinations := fun crossing => by simp only [FilterSpec.combinations, h]
  combinationCount := fun crossing => by simp only [FilterSpec.combinationCount, h]
  chart := fun year crossing => by
    rw [Chart.predicate_exactId h, predicate_of_exactId? h]

/-- An accepted request that asks for a registration number asks for nothing else, whatever it
selects beside the number, in whatever order. -/
theorem asksOnlyFor_of_ofParams {params : List (String × String)} {allowed ignored : List String}
    {raiseCase : Bool} (h : FilterSpec.ofParams params allowed ignored raiseCase = .ok spec)
    (hread : Dimension.exactId.name ∉ ignored) (hid : askedNumber? params = some id) :
    IsRegistrationNumber id ∧ AsksOnlyFor id spec :=
  ⟨(FilterSpec.first?_ofParams hread h).2 id hid,
    asksOnlyFor_of_exactId? (FilterSpec.exactId?_ofParams hread h hid)⟩

/-- A number between blanks, behind a blank one and before another, among other filters. -/
theorem asksOnlyFor_among_others :
    FilterSpec.ofParams [("county", "Fulton"), ("exactId", " "), ("exactId", " 0042x "),
        ("page", "2"), ("exactId", "7")] Dimension.allNames ["page"] true =
      .ok (FilterSpec.ofPairs [("county", ["FULTON"]), ("exactId", ["0042x", "7"])]) ∧
    Dimension.exactId.name ∉ ["page"] ∧
    askedNumber? [("county", "Fulton"), ("exactId", " "), ("exactId", " 0042x "),
        ("page", "2"), ("exactId", "7")] = some "0042x" ∧
    IsRegistrationNumber "0042x" ∧
    AsksOnlyFor "0042x"
      (FilterSpec.ofPairs [("county", ["FULTON"]), ("exactId", ["0042x", "7"])]) := by
  have h : FilterSpec.ofParams [("county", "Fulton"), ("exactId", " "), ("exactId", " 0042x "),
        ("page", "2"), ("exactId", "7")] Dimension.allNames ["page"] true =
      .ok (FilterSpec.ofPairs [("county", ["FULTON"]), ("exactId", ["0042x", "7"])]) := by
    rfl
  have hid : askedNumber? [("county", "Fulton"), ("exactId", " "), ("exactId", " 0042x "),
        ("page", "2"), ("exactId", "7")] = some "0042x" := by
    decide
  exact ⟨h, by decide, hid, asksOnlyFor_of_ofParams h (by decide) hid⟩

end Electorate
