import Electorate.Proofs.NearestDouble

/-!
# Products of doubles

A product of two doubles is the product of their mantissas at the sum of their exponents, shifted
until it has 53 digits and rounded. From the exponents alone it is clear that some products are not
zero and that some are not infinite.

* `rounded_cases`: the mantissa and the exponent of a rounded number.
* `unpack_pack_ne_zero`, `isInf_unpack_pack`: what is written with a mantissa and an exponent.
* `mul_beq_zero`: a product is not rounded to zero if its unit is not below that of all doubles.
* `isInf_mul`: a product does not overflow if its unit is low enough.
* `unpack_of_not_le`, `isInf_of_between`: what comparisons tell of the parts of a double.
-/

namespace Electorate.Number

open Float.Model
open Float.Model.UnpackedFloat (Accuracy ExtendedMantissa Sign roundWithAccuracy
  shiftToTargetExponent)

variable {s : Sign} {m q : Nat} {e : Int}

/-! ## Rounding -/

theorem mantissa_shiftRight (em : ExtendedMantissa) (n : Nat) :
    (em >>> n).mantissa = em.mantissa / 2 ^ n := by
  induction n with
  | zero => exact (Nat.div_one em.mantissa).symm
  | succ n ih =>
    show (em >>> n).mantissa / 2 = em.mantissa / 2 ^ (n + 1)
    rw [ih, Nat.div_div_eq_div_mul, pow_succ]

/-- The exponent with which a number has at most 53 digits and no smaller unit than doubles have. -/
def unitOf (m : Nat) (e : Int) : Int := max ((m.log2 : Int) + e - 52) (-1074)

/-- The number of digits that are shifted out. -/
def shiftOf (m : Nat) (e : Int) : Nat := (unitOf m e - e).toNat

theorem targetExponent_eq (m : Nat) (e : Int) :
    Format.binary64.targetExponent (totalExponent m e) = unitOf m e := by
  show max ((m.log2 : Int) + 1 + e - ((1 + 52 : Nat) : Int)) (3 - 2 ^ 10 - ((1 + 52 : Nat) : Int)) =
    max ((m.log2 : Int) + e - 52) (-1074)
  omega

theorem shifted_eq (m : Nat) (e : Int) : ∃ em,
    shiftToTargetExponent .binary64 m e .exact = (em, e + shiftOf m e) ∧
      em.mantissa = m / 2 ^ shiftOf m e := by
  unfold shiftToTargetExponent UnpackedFloat.shiftToExponent
  rw [targetExponent_eq]
  exact ⟨_, rfl, mantissa_shiftRight _ _⟩

theorem roundedMantissa_bounds (em : ExtendedMantissa) :
    em.mantissa ≤ em.roundedMantissa ∧ em.roundedMantissa ≤ em.mantissa + 1 := by
  obtain ⟨m, roundBit, stickyBit⟩ := em
  cases roundBit <;> cases stickyBit <;>
    simp only [ExtendedMantissa.roundedMantissa, ExtendedMantissa.accuracy,
      Accuracy.roundToNearestEven]
  all_goals omega

/-- A shifted mantissa has at most 53 digits. -/
theorem div_shiftOf_lt (m : Nat) (e : Int) : m / 2 ^ shiftOf m e < 2 ^ 53 := by
  rw [Nat.div_lt_iff_lt_mul (Nat.two_pow_pos _), ← pow_add]
  have hdigits : m.log2 + 1 ≤ 53 + shiftOf m e := by
    unfold shiftOf unitOf
    omega
  exact Nat.lt_log2_self.trans_le (Nat.pow_le_pow_right (by decide) hdigits)

/-- Nothing is shifted to zero whose unit is not below that of all doubles. -/
theorem div_shiftOf_pos (hm : 0 < m) (he : -1074 ≤ e) : 0 < m / 2 ^ shiftOf m e := by
  refine Nat.div_pos (le_trans (Nat.pow_le_pow_right (by decide) ?_) (Nat.log2_self_le hm.ne'))
    (Nat.two_pow_pos _)
  unfold shiftOf unitOf
  omega

theorem le_add_shiftOf (m : Nat) (e : Int) : -1074 ≤ e + shiftOf m e ∧
    e + shiftOf m e = max e (unitOf m e) := by
  unfold shiftOf unitOf
  omega

/-- Rounding up to the next power of two takes one digit more. -/
theorem shiftOf_le_one (hm : m ≤ 2 ^ 53) (he : -1074 ≤ e) : shiftOf m e ≤ 1 := by
  have hlog : m.log2 ≤ 53 := by
    have hmono := Nat.log_mono_right (b := 2) hm
    rwa [← Nat.log2_eq_log_two, ← Nat.log2_eq_log_two, Nat.log2_two_pow] at hmono
  unfold shiftOf unitOf
  omega

/-- A rounded number is zero, where all its digits are shifted out, or has a mantissa of at most 53
digits. -/
theorem rounded_cases (s : Sign) (m : Nat) (e : Int) :
    (roundWithAccuracy .binary64 s m e .exact = .zero s ∧ m / 2 ^ shiftOf m e = 0) ∨
      ∃ q e' hq, roundWithAccuracy .binary64 s m e .exact = .finite s q e' hq ∧ q < 2 ^ 53 ∧
        -1074 ≤ e' ∧ e' ≤ max e (unitOf m e) + 1 := by
  obtain ⟨first, hfirst, hmantissa⟩ := shifted_eq m e
  have hbounds := roundedMantissa_bounds first
  obtain ⟨hleast, hexponent⟩ := le_add_shiftOf m e
  obtain ⟨second, hsecond, hmantissa'⟩ := shifted_eq first.roundedMantissa (e + shiftOf m e)
  have hround : roundWithAccuracy .binary64 s m e .exact =
      if h : second.mantissa = 0 then .zero s
      else .finite s second.mantissa (e + shiftOf m e + shiftOf first.roundedMantissa
        (e + shiftOf m e)) (Nat.pos_of_ne_zero h) := by
    simp only [roundWithAccuracy, hfirst, hsecond]
  have hle : first.roundedMantissa ≤ 2 ^ 53 := by
    have hlt := div_shiftOf_lt m e
    omega
  rw [hround]
  by_cases hzero : second.mantissa = 0
  · refine .inl ⟨dif_pos hzero, ?_⟩
    by_contra hne
    have hpos : 0 < first.roundedMantissa := by omega
    exact (div_shiftOf_pos hpos hleast).ne' (hmantissa' ▸ hzero)
  · refine .inr ⟨_, _, Nat.pos_of_ne_zero hzero, dif_neg hzero, ?_, ?_⟩
    · rw [hmantissa']
      exact div_shiftOf_lt _ _
    · have hone := shiftOf_le_one hle hleast
      omega

/-! ## Fields -/

/-- The bits of an infinity, of a number with 53 digits and of a smaller one. -/
theorem pack_cases (s : Sign) (e : Int) (hq : 0 < q) :
    (2046 ≤ e + 1074 ∧ UnpackedFloat.pack .binary64 (.finite s q e hq) =
      UnpackedFloat.packComponents .binary64 s (-1#_) 0#_) ∨
    (e + 1074 < 2046 ∧ q.log2 = 52 ∧ UnpackedFloat.pack .binary64 (.finite s q e hq) =
      UnpackedFloat.packComponents .binary64 s (BitVec.ofNat _ (e + 1075).toNat)
        (BitVec.ofNat _ q)) ∨
    (q.log2 ≠ 52 ∧ UnpackedFloat.pack .binary64 (.finite s q e hq) =
      UnpackedFloat.packComponents .binary64 s 0#_ (BitVec.ofNat _ q)) := by
  have hbiased : (e + (Format.binary64.exponentBias : Int) +
      (Format.binary64.mantissaBitsWithoutImplicit : Int)).toNat = (e + 1075).toNat := by
    show (e + 1023 + 52).toNat = _
    omega
  simp only [UnpackedFloat.pack, hbiased]
  split
  · rename_i hlarge
    have hlarge' : 2 ^ 11 ≤ (e + 1075).toNat + 1 := hlarge
    exact .inl ⟨by omega, rfl⟩
  · rename_i hsmall
    have hsmall' : ¬2 ^ 11 ≤ (e + 1075).toNat + 1 := hsmall
    split
    · rename_i hdigits
      have hdigits' : q.log2 + 1 = 1 + 52 := hdigits
      exact .inr (.inl ⟨by omega, by omega, rfl⟩)
    · rename_i hdigits
      have hdigits' : ¬q.log2 + 1 = 1 + 52 := hdigits
      exact .inr (.inr ⟨by omega, rfl⟩)

theorem fields_of_unpack_eq_zero {b : BitVec 64} (h : UnpackedFloat.unpack .binary64 b = .zero s) :
    @UnpackedFloat.unpackExponent .binary64 b = 0#_ ∧
      @UnpackedFloat.unpackMantissa .binary64 b = 0#_ := by
  unfold UnpackedFloat.unpack at h
  simp only at h
  split at h
  · split at h <;> cases h
  · split at h
    · split at h
      · exact ⟨‹_›, ‹_›⟩
      · cases h
    · cases h

theorem ofNat_ne_zero {w n : Nat} (hpos : 0 < n) (hlt : n < 2 ^ w) : BitVec.ofNat w n ≠ 0#w := by
  intro h
  have hn := congrArg BitVec.toNat h
  rw [BitVec.toNat_ofNat, BitVec.toNat_ofNat, Nat.mod_eq_of_lt hlt, Nat.zero_mod] at hn
  omega

/-- A number that is not zero is not written as zero. -/
theorem unpack_pack_ne_zero {hq : 0 < q} (hlt : q < 2 ^ 53) (he : -1074 ≤ e) (s' : Sign) :
    UnpackedFloat.unpack .binary64 (UnpackedFloat.pack .binary64 (.finite s q e hq)) ≠ .zero s' := by
  intro h
  obtain ⟨hexponent, hmantissa⟩ := fields_of_unpack_eq_zero h
  obtain ⟨-, hpack⟩ | ⟨hsmall, -, hpack⟩ | ⟨hdigits, hpack⟩ := pack_cases s e hq
  · rw [hpack, UnpackedFloat.unpackExponent_packComponents] at hexponent
    exact absurd hexponent (by decide)
  · rw [hpack, UnpackedFloat.unpackExponent_packComponents] at hexponent
    exact ofNat_ne_zero (w := 11) (by omega) (by omega) hexponent
  · -- A smaller number has the exponent of zero, and is told from zero by its digits.
    rw [hpack, UnpackedFloat.unpackMantissa_packComponents] at hmantissa
    have hfits : q < 2 ^ 52 := by
      by_contra hlarge
      exact hdigits ((Nat.log2_eq_iff hq.ne').mpr ⟨Nat.le_of_not_lt hlarge, hlt⟩)
    exact ofNat_ne_zero (w := 52) hq hfits hmantissa

/-- A number with an exponent that doubles have is not written as an infinity. -/
theorem isInf_unpack_pack {hq : 0 < q} (he : e ≤ 971) :
    (UnpackedFloat.unpack .binary64
      (UnpackedFloat.pack .binary64 (.finite s q e hq))).isInf = false := by
  rw [← Bool.not_eq_true, isInf_unpack_iff, ← unpackExponent_eq_iff]
  rintro ⟨hexponent, -⟩
  obtain ⟨hlarge, -⟩ | ⟨hsmall, -, hpack⟩ | ⟨-, hpack⟩ := pack_cases s e hq
  · omega
  · rw [hpack, UnpackedFloat.unpackExponent_packComponents] at hexponent
    have hfield : (e + 1075).toNat % 2 ^ 11 = 2047 := congrArg BitVec.toNat hexponent
    omega
  · rw [hpack, UnpackedFloat.unpackExponent_packComponents] at hexponent
    exact absurd hexponent (by decide)

/-! ## Products -/

variable {x y : Float} {s₁ s₂ : Sign} {m₁ m₂ : Nat} {e₁ e₂ : Int} {h₁ : 0 < m₁} {h₂ : 0 < m₂}

/-- The parts that are read off the bits of a double. -/
theorem unpack_of_toBits {b : UInt64} (h : x.toBits = b) :
    x.toModel.unpack = UnpackedFloat.unpack .binary64 b.toBitVec := by
  subst h
  rfl

/-- A double has at most 53 digits, and its exponent is at most that of the greatest double. -/
theorem finite_bounds (h : x.toModel.unpack = .finite s₁ m₁ e₁ h₁) : m₁ < 2 ^ 53 ∧ e₁ ≤ 971 := by
  have hbits : UnpackedFloat.unpack .binary64 x.toModel.toBits.toBitVec = .finite s₁ m₁ e₁ h₁ := h
  have hfield := (@UnpackedFloat.unpackExponent .binary64 x.toModel.toBits.toBitVec).isLt
  unfold UnpackedFloat.unpack at hbits
  simp only at hbits
  split at hbits
  · split at hbits <;> cases hbits
  · rename_i hall
    have hne : (@UnpackedFloat.unpackExponent .binary64 x.toModel.toBits.toBitVec).toNat ≠ 2047 :=
      fun heq => hall (BitVec.eq_of_toNat_eq heq)
    have hlt : (@UnpackedFloat.unpackExponent .binary64 x.toModel.toBits.toBitVec).toNat < 2 ^ 11 :=
      hfield
    have hbias : ((Format.binary64.exponentBias : Int) +
        (Format.binary64.mantissaBitsWithoutImplicit : Int)) = 1075 := rfl
    split at hbits
    · rename_i hzero
      split at hbits
      · cases hbits
      · cases hbits
        refine ⟨(BitVec.isLt _).trans (by decide), ?_⟩
        rw [hbias, hzero]
        decide
    · cases hbits
      refine ⟨BitVec.isLt _, ?_⟩
      rw [hbias]
      omega

theorem unpack_mul (x y : Float) : (x * y).toModel.unpack =
    UnpackedFloat.unpack .binary64 (UnpackedFloat.pack .binary64
      (UnpackedFloat.mul .binary64 x.toModel.unpack y.toModel.unpack)) := rfl

theorem unpack_mul_finite (hx : x.toModel.unpack = .finite s₁ m₁ e₁ h₁)
    (hy : y.toModel.unpack = .finite s₂ m₂ e₂ h₂) :
    (x * y).toModel.unpack = UnpackedFloat.unpack .binary64 (UnpackedFloat.pack .binary64
      (roundWithAccuracy .binary64 (s₁ * s₂) (m₁ * m₂) (e₁ + e₂) .exact)) := by
  rw [unpack_mul, hx, hy]
  rfl

theorem beq_zero_eq_false (h : ∀ s, x.toModel.unpack ≠ .zero s) : (x == 0.0) = false := by
  have hzero : (0.0 : Float).toModel.unpack = .zero .positive :=
    unpack_of_toBits (b := 0) (by decide +kernel)
  show (x.toModel.unpack.compare (0.0 : Float).toModel.unpack == some .eq) = false
  rw [hzero]
  cases hx : x.toModel.unpack with
  | notANumber => rfl
  | infinity s => cases s <;> rfl
  | zero s => exact absurd hx (h s)
  | finite s => cases s <;> rfl

/-- A product whose unit is not below that of all doubles is not zero. -/
theorem mul_beq_zero (hx : x.toModel.unpack = .finite s₁ m₁ e₁ h₁)
    (hy : y.toModel.unpack = .finite s₂ m₂ e₂ h₂) (he : -1074 ≤ e₁ + e₂) :
    (x * y == 0.0) = false := by
  refine beq_zero_eq_false fun s => ?_
  rw [unpack_mul_finite hx hy]
  obtain ⟨-, hlost⟩ | ⟨q, e', hq, hround, hlt, he', -⟩ :=
    rounded_cases (s₁ * s₂) (m₁ * m₂) (e₁ + e₂)
  · exact absurd hlost (div_shiftOf_pos (Nat.mul_pos h₁ h₂) he).ne'
  · rw [hround]
    exact unpack_pack_ne_zero hlt he' s

/-- A product whose unit is below the greatest double by all digits that are shifted out is not
infinite. -/
theorem isInf_mul (hx : x.toModel.unpack = .finite s₁ m₁ e₁ h₁)
    (hy : y.toModel.unpack = .finite s₂ m₂ e₂ h₂) (he : e₁ + e₂ ≤ 917) :
    (x * y).isInf = false := by
  have hdigits : (m₁ * m₂).log2 < 106 := by
    refine (Nat.log2_lt (Nat.mul_pos h₁ h₂).ne').mpr ?_
    rw [show 106 = 53 + 53 by rfl, pow_add]
    exact Nat.mul_lt_mul'' (finite_bounds hx).1 (finite_bounds hy).1
  show (x * y).toModel.unpack.isInf = false
  rw [unpack_mul_finite hx hy]
  obtain ⟨hround, -⟩ | ⟨q, e', hq, hround, -, -, hle⟩ :=
    rounded_cases (s₁ * s₂) (m₁ * m₂) (e₁ + e₂)
  · rw [hround]
    cases s₁ * s₂ <;> rfl
  · rw [hround]
    refine isInf_unpack_pack ?_
    unfold unitOf at hle
    omega

/-! ## Comparisons -/

theorem le_iff_compare :
    x ≤ y ↔ (x.toModel.unpack.compare y.toModel.unpack).any (·.isLE) = true := by
  show decide (x.toModel ≤ y.toModel) = true ↔ _
  rw [decide_eq_true_iff]
  exact Iff.rfl

/-- What is not below a positive double has at least its exponent, if it is a number. -/
theorem unpack_of_not_le (hy : y.toModel.unpack = .finite .positive m₂ e₂ h₂) (h : ¬x ≤ y) :
    x.toModel.unpack = .notANumber ∨ x.toModel.unpack = .infinity .positive ∨
      ∃ m e hm, x.toModel.unpack = .finite .positive m e hm ∧ e₂ ≤ e := by
  rw [le_iff_compare, hy] at h
  -- What has no positive sign is below a positive double.
  cases hx : x.toModel.unpack with
  | notANumber => exact .inl rfl
  | infinity s =>
    cases s with
    | positive => exact .inr (.inl rfl)
    | negative => exact absurd (by rw [hx]; rfl) h
  | zero s => exact absurd (by rw [hx]; rfl) h
  | finite s m e hm =>
    cases s with
    | negative => exact absurd (by rw [hx]; rfl) h
    | positive =>
      have hexponent : e₂ ≤ e := by
        by_contra hlt
        have hcompare : compare e e₂ = .lt := Int.compare_eq_lt.mpr (not_le.mp hlt)
        refine h ?_
        rw [hx]
        show ((compare e e₂).then (compare m m₂)).isLE = true
        rw [hcompare]
        rfl
      exact .inr (.inr ⟨m, e, hm, rfl, hexponent⟩)

/-- Between two numbers there is no infinity. -/
theorem isInf_of_between {low high : Float}
    (hlow : low.toModel.unpack = .finite s₁ m₁ e₁ h₁)
    (hhigh : high.toModel.unpack = .finite s₂ m₂ e₂ h₂) (hge : low ≤ x) (hle : x ≤ high) :
    x.isInf = false := by
  rw [le_iff_compare, hlow] at hge
  rw [le_iff_compare, hhigh] at hle
  show x.toModel.unpack.isInf = false
  cases hx : x.toModel.unpack with
  | notANumber => rfl
  | infinity s =>
    rw [hx] at hle hge
    cases s with
    | positive => cases hle
    | negative => cases hge
  | zero s => rfl
  | finite s => rfl

end Electorate.Number
