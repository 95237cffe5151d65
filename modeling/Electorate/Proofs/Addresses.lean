import Electorate.Proofs.Extraction

/-!
# Written addresses

An address is written with commas between its parts. What is read from a text and written again is
read back, so that reading an address twice is reading it once.

* `Text.sep_not_mem_of_mem_splitOn`, `Text.mem_of_mem_strip`: pieces of a text have no separator
  in them, and no other characters than the text.
* `ResidentAddress.ofParam?_eq_some_iff`: the parts that are read are the pieces, in order.
* `ResidentAddress.ofParam?_toParam`: an address is read back if its parts have neither commas in
  them nor blanks at their ends, as those of an address that was read (`ofParam?_toParam_of_read`).
-/

namespace Electorate

namespace Text

/-- No piece has the separator in it. -/
theorem sep_not_mem_of_mem_splitChars {sep : Char} {cs piece : List Char}
    (h : piece ∈ splitChars sep cs) : sep ∉ piece := by
  induction cs generalizing piece with
  | nil =>
    rw [splitChars, List.mem_singleton] at h
    simp [h]
  | cons c cs ih =>
    rw [splitChars] at h
    split at h
    · -- A separator begins a piece of its own, with nothing in it yet.
      rcases List.mem_cons.mp h with rfl | h
      · exact List.not_mem_nil
      · exact ih h
    · -- Any other character goes in front of the first piece of what follows.
      rename_i hc
      split at h
      · rename_i hnil
        exact absurd hnil (splitChars_ne_nil sep cs)
      · rename_i first rest hcons
        rw [hcons] at ih
        rcases List.mem_cons.mp h with rfl | h
        · have hfirst : sep ∉ first := ih List.mem_cons_self
          simp [Ne.symm hc, hfirst]
        · exact ih (List.mem_cons_of_mem first h)

theorem sep_not_mem_of_mem_splitOn {sep : Char} {s piece : String} (h : piece ∈ splitOn sep s) :
    sep ∉ piece.toList := by
  obtain ⟨cs, hcs, rfl⟩ := List.mem_map.mp h
  rw [String.toList_ofList]
  exact sep_not_mem_of_mem_splitChars hcs

/-- A text without the blanks at its ends has no other characters than the text. -/
theorem mem_of_mem_strip {c : Char} {s : String} (h : c ∈ (strip s).toList) : c ∈ s.toList := by
  rw [strip, String.toList_ofList, trimBlanks_eq] at h
  exact (List.dropWhile_sublist isBlank).subset
    ((List.rdropWhile_prefix isBlank _).sublist.subset h)

end Text

namespace ResidentAddress

variable {s : String} {a : ResidentAddress}

/-- The parts of an address are the pieces of the text between its commas, in order and without
blanks at their ends. -/
theorem ofParam?_eq_some_iff :
    ofParam? s = some a ↔ (Text.splitOn ',' s).map Text.strip = AddressPart.all.map a.part := by
  unfold ofParam?
  constructor
  · intro h
    split at h
    · rename_i heq
      obtain rfl := Option.some.inj h
      exact heq
    · cases h
  · intro h
    rw [h]
    rfl

/-- An address whose parts have neither commas in them nor blanks at their ends is read back. -/
theorem ofParam?_toParam (hcomma : ∀ p, ',' ∉ (a.part p).toList)
    (hstrip : ∀ p, Text.strip (a.part p) = a.part p) : ofParam? a.toParam = some a := by
  have hparts : Text.splitOn ',' a.toParam = AddressPart.all.map a.part := by
    refine Text.splitOn_joinWith (by simp [AddressPart.all]) fun x hx => ?_
    obtain ⟨p, -, rfl⟩ := List.mem_map.mp hx
    exact hcomma p
  rw [ofParam?_eq_some_iff, hparts, List.map_map]
  exact List.map_congr_left fun p _ => hstrip p

/-- The parts of an address that is read have no commas in them. -/
theorem comma_not_mem_part (h : ofParam? s = some a) (p : AddressPart) :
    ',' ∉ (a.part p).toList := by
  have hp : a.part p ∈ (Text.splitOn ',' s).map Text.strip := by
    rw [ofParam?_eq_some_iff.mp h]
    exact List.mem_map_of_mem (AddressPart.mem_all p)
  obtain ⟨piece, hpiece, heq⟩ := List.mem_map.mp hp
  rw [← heq]
  exact fun hmem => Text.sep_not_mem_of_mem_splitOn hpiece (Text.mem_of_mem_strip hmem)

/-- What is read from a text and written again is read back. -/
theorem ofParam?_toParam_of_read (h : ofParam? s = some a) : ofParam? a.toParam = some a :=
  ofParam?_toParam (comma_not_mem_part h) (strip_part h)

end ResidentAddress

end Electorate
