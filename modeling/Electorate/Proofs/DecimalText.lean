import Electorate.Number.Integer
import Electorate.Proofs.Extraction

/-!
# Integers that are written and read again

* `Text.digitsValue_eq_ofDigitChars`: the value of decimal digits.
* `Number.readInteger?_signed`: digits, with or without a minus sign, are read as the number that
  they write.
* `Number.readInteger?_toString`: an integer is read from its own text.
-/

namespace Electorate

namespace Text

variable {c : Char} {cs : List Char}

theorem digitValue?_of_isDigit (h : c.isDigit = true) : digitValue? c = some (c.toNat - 0x30) := by
  obtain ⟨hlow, hhigh⟩ := (Bool.and_eq_true _ _).mp h
  exact if_pos ⟨of_decide_eq_true hlow, of_decide_eq_true hhigh⟩

theorem isDigit_of_isDigit (h : c.isDigit = true) : isDigit c = true :=
  Option.isSome_of_eq_some (digitValue?_of_isDigit h)

theorem isBlank_of_isDigit (h : c.isDigit = true) : isBlank c = false := by
  have hrange : 0x30 ≤ c.toNat ∧ c.toNat ≤ 0x39 := Char.isDigit_iff_toNat.mp h
  simp [isBlank]
  omega

theorem digitsValue_eq_ofDigitChars (h : ∀ c ∈ cs, c.isDigit = true) :
    digitsValue cs = Nat.ofDigitChars 10 cs 0 := by
  refine List.foldl_ext _ _ _ fun n c hc => ?_
  rw [digitValue?_of_isDigit (h c hc)]
  rfl

theorem trimBlanks_eq_self_of_forall (h : ∀ c ∈ cs, isBlank c = false) : trimBlanks cs = cs :=
  trimBlanks_eq_self_iff.mpr
    ⟨fun c hc => h c (List.mem_of_mem_head? hc), fun c hc => h c (List.mem_of_mem_getLast? hc)⟩

end Text

namespace Number

open Text

variable {cs : List Char} {s : String}

/-- Digits without an underscore stand for themselves. -/
theorem plainDigits_eq_self (hne : cs ≠ []) (h : ∀ c ∈ cs, isDigit c = true) :
    plainDigits cs = some cs := by
  induction cs with
  | nil => exact absurd rfl hne
  | cons c rest ih =>
    obtain ⟨hc, hrest⟩ := List.forall_mem_cons.mp h
    cases rest with
    | nil => exact if_pos hc
    | cons d rest =>
      have hd : d ≠ '_' := by
        rintro rfl
        exact absurd (hrest '_' List.mem_cons_self) (by decide)
      have hcons : plainDigits (c :: d :: rest) =
          if isDigit c then (plainDigits (d :: rest)).map (c :: ·) else none := by
        rw [plainDigits]
        · simp
        · simpa using hd
      rw [hcons, if_pos hc, ih (List.cons_ne_nil d rest) hrest]
      rfl

/-- Digits have no sign in front. -/
theorem cutSign_eq (h : ∀ c ∈ cs, c.isDigit = true) : cutSign cs = (false, cs) := by
  unfold cutSign
  split
  · exact absurd (h '-' List.mem_cons_self) (by decide)
  · exact absurd (h '+' List.mem_cons_self) (by decide)
  · rfl

/-- Digits, with or without a minus sign, are read as the number that they write. -/
theorem readInteger?_signed {negative : Bool} (hs : s.toList = if negative then '-' :: cs else cs)
    (hne : cs ≠ []) (h : ∀ c ∈ cs, c.isDigit = true) (hlength : cs.length ≤ maxIntegerDigits) :
    readInteger? s = some (if negative then -(digitsValue cs : Int) else digitsValue cs) := by
  have hblank : ∀ c ∈ s.toList, isBlank c = false := by
    have hcs : ∀ c ∈ cs, isBlank c = false := fun c hc => isBlank_of_isDigit (h c hc)
    rw [hs]
    cases negative with
    | false => exact hcs
    | true => exact List.forall_mem_cons.mpr ⟨by decide, hcs⟩
  have hsign : cutSign s.toList = (negative, cs) := by
    rw [hs]
    cases negative with
    | false => exact cutSign_eq h
    | true => rfl
  have hplain := plainDigits_eq_self hne fun c hc => isDigit_of_isDigit (h c hc)
  simp only [readInteger?, readInteger, trimBlanks_eq_self_of_forall hblank, hsign, hplain,
    if_neg hlength.not_gt]
  rfl

/-- An integer is read from its own text. -/
theorem readInteger?_toString {n : Int} (h : n.natAbs < 10 ^ maxIntegerDigits) :
    readInteger? (toString n) = some n := by
  have hread (negative : Bool) (m : Nat) (hm : m < 10 ^ maxIntegerDigits)
      (hs : (toString n).toList =
        if negative then '-' :: Nat.toDigits 10 m else Nat.toDigits 10 m) :
      readInteger? (toString n) = some (if negative then -(m : Int) else m) := by
    have hdigits : ∀ c ∈ Nat.toDigits 10 m, c.isDigit = true := fun c hc =>
      Nat.isDigit_of_mem_toDigits (by decide) (by decide) hc
    rw [readInteger?_signed hs Nat.toDigits_ne_nil hdigits
      ((Nat.length_toDigits_le_iff (by decide) (by decide)).mpr hm),
      digitsValue_eq_ofDigitChars hdigits, Nat.ofDigitChars_ten_toDigits]
  cases n with
  | ofNat m => exact hread false m h Nat.toList_repr
  | negSucc m =>
    refine (hread true (m + 1) h ?_).trans rfl
    show ("-" ++ (m + 1).repr).toList = '-' :: Nat.toDigits 10 (m + 1)
    rw [String.toList_append, Nat.toList_repr]
    rfl

end Number

end Electorate
