import Electorate.Filter.Constraint
import Electorate.Proofs.Addresses

/-!
# Addresses among the values of a filter

An address is given as a text, kept in a filter as the text that it is written as, and read once
more when its condition is built. None of these steps changes what is asked.

* `ResidentAddress.ofParam?_eq_none_iff`: a text is an address unless it has more or fewer than seven
  commas.
* `predicate?_residentAddress`: the condition of one text that stands alone.
* `ResidentAddress.readBack`: addresses are read back as they were written, and the form in which a
  text is kept has the condition of the text; where it is dropped, there is none.
-/

namespace Electorate

namespace ResidentAddress

variable {s : String} {a : ResidentAddress}

/-- What is not read as an address has more or fewer than seven commas. -/
theorem ofParam?_eq_none_iff : ofParam? s = none ↔ s.toList.count ',' ≠ 7 := by
  have hlength : ((Text.splitOn ',' s).map Text.strip).length = s.toList.count ',' + 1 := by
    rw [List.length_map, Text.splitOn, List.length_map, Text.length_splitChars]
  unfold ofParam?
  split
  · rename_i heq
    rw [heq] at hlength
    simp only [List.length_cons, List.length_nil] at hlength
    simp only [reduceCtorEq, false_iff, not_not]
    omega
  · rename_i hother
    refine iff_of_true rfl fun hcount => ?_
    rw [hcount] at hlength
    generalize (Text.splitOn ',' s).map Text.strip = parts at hlength hother
    -- Eight parts are read as an address; fewer or more do not have the length of seven commas.
    obtain _ | ⟨a, _ | ⟨b, _ | ⟨c, _ | ⟨d, _ | ⟨e, _ | ⟨f, _ | ⟨g, _ | ⟨h, _ | ⟨i, rest⟩⟩⟩⟩⟩⟩⟩⟩⟩ := parts
    case cons.cons.cons.cons.cons.cons.cons.cons.nil => exact hother a b c d e f g h rfl
    all_goals
      simp only [List.length_cons, List.length_nil] at hlength
      omega

end ResidentAddress

open Sql in
/-- The condition of one text that stands alone. -/
theorem predicate?_residentAddress (spec : FilterSpec) (year : Int) (value : String) :
    Dimension.residentAddress.predicate? spec year [value] =
      (ResidentAddress.ofParam? value).bind (·.predicate?) := by
  unfold Dimension.predicate?
  dsimp only
  rw [List.filterMap_cons]
  cases (ResidentAddress.ofParam? value).bind (·.predicate?) <;> rfl

/-- An address that is written is read as it was, as far as its parts can stand between commas; a
text is an address exactly if it has seven commas; and a filter asks for the form in which it keeps
a text what it would ask for the text, and drops exactly the texts for which it asks nothing. -/
theorem ResidentAddress.readBack :
    (∀ s a, ofParam? s = some a → ofParam? a.toParam = some a ∧
      (ofParam? a.toParam).map toParam = some a.toParam) ∧
    (∀ a : ResidentAddress, (∀ p, ',' ∉ (a.part p).toList) →
      (∀ p, Text.strip (a.part p) = a.part p) → ofParam? a.toParam = some a) ∧
    (∀ s, ofParam? s = none ↔ s.toList.count ',' ≠ 7) ∧
    ∀ spec year value raiseCase, ∃ kept,
      normalizeValue Dimension.residentAddress.name value raiseCase = .ok kept ∧
      Dimension.residentAddress.predicate? spec year kept.toList =
        Dimension.residentAddress.predicate? spec year [value] ∧
      (kept = none ↔ Dimension.residentAddress.predicate? spec year [value] = none) := by
  refine ⟨fun s a h => ?_, fun a => ofParam?_toParam, fun s => ofParam?_eq_none_iff,
    fun spec year value raiseCase =>
      ⟨_, normalizeValue_residentAddress value raiseCase, ?_⟩⟩
  · rw [ofParam?_toParam_of_read h]
    exact ⟨rfl, rfl⟩
  · rw [predicate?_residentAddress]
    cases hread : ofParam? value with
    | none => exact ⟨rfl, by simp⟩
    | some a =>
      rw [Option.bind_some, Option.bind_some]
      by_cases hempty : a.isEmpty = true
      · have hnone : a.predicate? = none := if_pos hempty
        rw [if_pos hempty, hnone]
        exact ⟨rfl, by simp⟩
      · rw [if_neg hempty]
        refine ⟨?_, ?_⟩
        · rw [Option.toList_some, predicate?_residentAddress, ofParam?_toParam_of_read hread,
            Option.bind_some]
        · simp [predicate?, hempty]

/-- An address with blanks around its parts and parts that are missing. -/
theorem ResidentAddress.readBack_oak :
    ofParam? " 12 ,,Oak\u3000,, ,,Atlanta , 30303" =
        some { streetNumber := "12", streetName := "Oak", city := "Atlanta", zipcode := "30303" } ∧
      ofParam? "12,,Oak,,,,Atlanta,30303" =
        some { streetNumber := "12", streetName := "Oak", city := "Atlanta", zipcode := "30303" } := by
  have hread : ofParam? " 12 ,,Oak\u3000,, ,,Atlanta , 30303" =
      some { streetNumber := "12", streetName := "Oak", city := "Atlanta", zipcode := "30303" } := by
    decide
  exact ⟨hread, (readBack.1 _ _ hread).1⟩

end Electorate
