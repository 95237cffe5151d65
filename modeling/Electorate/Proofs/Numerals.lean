import Electorate.Number.Integer

/-!
# Numerals of integers

* `isNumeral_of_mem_repr`: a numeral is made of digits and the minus sign.
* `intRepr_injective`: integers with one numeral are equal.
-/

namespace Electorate

/-- A character of the numeral of an integer. -/
def isNumeral (c : Char) : Bool := c == '-' || c.isDigit

variable {m n : Nat} {c : Char}

theorem not_mem_natRepr {d : Char} (h : d.isDigit = false) (m : Nat) : d ∉ m.repr.toList := by
  rw [Nat.toList_repr]
  intro hd
  rw [Nat.isDigit_of_mem_toDigits (by decide) (by decide) hd] at h
  cases h

theorem isNumeral_of_mem_repr {n : Int} (h : c ∈ n.repr.toList) : isNumeral c = true := by
  have hdigits (m : Nat) (hc : c ∈ m.repr.toList) : isNumeral c = true := by
    rw [Nat.toList_repr] at hc
    rw [isNumeral, Nat.isDigit_of_mem_toDigits (by decide) (by decide) hc, Bool.or_true]
  cases n with
  | ofNat m => exact hdigits m h
  | negSucc m =>
    have hmem : c ∈ ("-" ++ (m + 1).repr).toList := h
    rw [String.toList_append] at hmem
    rcases List.mem_append.mp hmem with hminus | hrest
    · rw [List.mem_singleton.mp hminus]
      rfl
    · exact hdigits _ hrest

theorem not_comma_mem_repr (n : Int) : ',' ∉ n.repr.toList := fun h =>
  absurd (isNumeral_of_mem_repr h) (by decide)

theorem natRepr_injective (h : m.repr = n.repr) : m = n := by
  have hdigits : Nat.toDigits 10 m = Nat.toDigits 10 n := by
    rw [← Nat.toList_repr, ← Nat.toList_repr, h]
  have hvalue := congrArg (Nat.ofDigitChars 10 · 0) hdigits
  simpa only [Nat.ofDigitChars_ten_toDigits] using hvalue

theorem natRepr_ne_minus (m : Nat) (s : String) : m.repr ≠ "-" ++ s := by
  intro h
  refine not_mem_natRepr (d := '-') rfl m ?_
  rw [h, String.toList_append]
  exact List.mem_append_left _ (by decide)

theorem intRepr_injective {m n : Int} (h : m.repr = n.repr) : m = n := by
  cases m with
  | ofNat m =>
    cases n with
    | ofNat n => exact congrArg Int.ofNat (natRepr_injective h)
    | negSucc n => exact absurd h (natRepr_ne_minus m _)
  | negSucc m =>
    cases n with
    | ofNat n => exact absurd h.symm (natRepr_ne_minus n _)
    | negSucc n =>
      have hnat : (m + 1).repr = (n + 1).repr := (String.append_right_inj "-").1 h
      exact congrArg Int.negSucc (Nat.succ.inj (natRepr_injective hnat))

theorem intRepr_ne_empty (n : Int) : n.repr ≠ "" := by
  cases n with
  | ofNat m =>
    intro h
    have hdigits : Nat.toDigits 10 m = [] := Nat.toList_repr.symm.trans (congrArg String.toList h)
    exact Nat.toDigits_ne_nil hdigits
  | negSucc m =>
    intro h
    have hminus : "-" ++ (m + 1).repr = "" := h
    simp at hminus

end Electorate
