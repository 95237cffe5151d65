import Electorate.Number.Decimal
import Electorate.Store.Cell
import Mathlib

/-!
# The nearest double

A quotient of natural numbers is written as a double in two steps: it is rounded to a natural number
of units `2 ^ e`, and mantissa and exponent become the fields of the double. Values are exact
rational numbers.

* `ofFields`, `ofFloat?_ofFields`: a double from its fields, and the parts that are read off it.
* `roundHalfEven_nearest`, `scaled_nearest`: rounding to a natural number, and to units of `2 ^ e`.
* `scaleOf`, `le_quotient_of_scaleOf`: the unit with which a quotient has 53 binary digits.
* `roundedParts_nearest`: no number of 53 binary digits is nearer to the quotient.
* `isNearest_nearestFloat`: so no double is.
* `isFinite_nearestFloat_of_le`: up to the greatest double the result is a number.
-/

namespace Electorate.Number

open Float.Model

/-! ## The parts of a double -/

@[simp] theorem twoTo_eq (k : Nat) : twoTo k = 2 ^ k := rfl

/-- The biased exponent in the bits of a double. -/
def biasedExponent (bits : Nat) : Nat := bits / 2 ^ 52 % 2 ^ 11

/-- The bits of the mantissa of a double below the leading one. -/
def fractionBits (bits : Nat) : Nat := bits % 2 ^ 52

theorem unpackExponent_eq_iff (b : BitVec 64) :
    @UnpackedFloat.unpackExponent .binary64 b = -1#_ ↔
      biasedExponent b.toNat = 2047 := by
  rw [← BitVec.toNat_inj, UnpackedFloat.unpackExponent_def, BitVec.extractLsb'_toNat,
    Nat.shiftRight_eq_div_pow]
  rfl

theorem unpackMantissa_eq_iff (b : BitVec 64) :
    @UnpackedFloat.unpackMantissa .binary64 b = 0#_ ↔ fractionBits b.toNat = 0 := by
  rw [← BitVec.toNat_inj, UnpackedFloat.unpackMantissa_def, BitVec.extractLsb'_toNat,
    Nat.shiftRight_zero]
  rfl

theorem isFinite_unpack_iff (b : BitVec 64) :
    (UnpackedFloat.unpack .binary64 b).isFinite = true ↔ biasedExponent b.toNat ≠ 2047 := by
  rw [ne_eq, ← unpackExponent_eq_iff]
  unfold UnpackedFloat.unpack
  simp only
  split
  -- The greatest exponent stands for an infinity or for no number, every other one for a number.
  · rename_i htop
    split <;> exact iff_of_false Bool.false_ne_true (not_not.mpr htop)
  · rename_i htop
    split
    · split <;> exact iff_of_true rfl htop
    · exact iff_of_true rfl htop

theorem isInf_unpack_iff (b : BitVec 64) :
    (UnpackedFloat.unpack .binary64 b).isInf = true ↔
      biasedExponent b.toNat = 2047 ∧ fractionBits b.toNat = 0 := by
  rw [← unpackExponent_eq_iff, ← unpackMantissa_eq_iff]
  unfold UnpackedFloat.unpack
  simp only
  split
  · rename_i htop
    split
    · rename_i hzero
      exact iff_of_true rfl ⟨htop, hzero⟩
    · rename_i hne
      exact iff_of_false Bool.false_ne_true fun h => hne h.2
  · rename_i htop
    split
    · split <;> exact iff_of_false Bool.false_ne_true fun h => htop h.1
    · exact iff_of_false Bool.false_ne_true fun h => htop h.1

theorem isFinite_iff (x : Float) : x.isFinite = true ↔ biasedExponent x.toBits.toNat ≠ 2047 :=
  isFinite_unpack_iff x.toBits.toBitVec

theorem isInf_iff (x : Float) :
    x.isInf = true ↔ biasedExponent x.toBits.toNat = 2047 ∧ fractionBits x.toBits.toNat = 0 :=
  isInf_unpack_iff x.toBits.toBitVec

/-- Bits that are not those of the value that is no number are kept. -/
theorem toNat_toBits_ofBits {n : Nat} (hn : n < 2 ^ 64)
    (h : biasedExponent n ≠ 2047 ∨ fractionBits n = 0) :
    (Float.ofBits (UInt64.ofNat n)).toBits.toNat = n := by
  have htoNat : (UInt64.ofNat n).toBitVec.toNat = n := by
    rw [UInt64.toNat_toBitVec, UInt64.toNat_ofNat_of_lt' hn]
  have hnan : @UnpackedFloat.isNaNBits .binary64 (UInt64.ofNat n).toBitVec = false := by
    rw [UnpackedFloat.isNaNBits, decide_eq_false_iff_not, unpackExponent_eq_iff, ne_eq,
      unpackMantissa_eq_iff, htoNat]
    tauto
  show (UnpackedFloat.pack .binary64 (UnpackedFloat.unpack .binary64
    (UInt64.ofNat n).toBitVec)).toNat = n
  rw [UnpackedFloat.pack_unpack, hnan]
  exact htoNat

/-- The bits of a sign. -/
def signBits (negative : Bool) : Nat := if negative then 2 ^ 63 else 0

/-- The double of a sign, a biased exponent and the bits of its fraction. -/
def ofFields (negative : Bool) (biased fraction : Nat) : Float :=
  Float.ofBits (UInt64.ofNat (signBits negative + (biased * 2 ^ 52 + fraction)))

theorem toNat_toBits_ofFields (negative : Bool) {b f : Nat} (hb : b < 2 ^ 11)
    (hf : f < 2 ^ 52) (h : b ≠ 2047 ∨ f = 0) :
    (ofFields negative b f).toBits.toNat =
      signBits negative + (b * 2 ^ 52 + f) := by
  have hs : signBits negative = 0 ∨ signBits negative = 2 ^ 63 := by cases negative <;> simp [signBits]
  refine toNat_toBits_ofBits (by omega) ?_
  simp only [biasedExponent, fractionBits]
  omega

/-- The parts of a double are read off its fields. -/
theorem ofFloat?_ofFields (negative : Bool) {b f : Nat} (hb : b < 2047)
    (hf : f < 2 ^ 52) :
    Binary.ofFloat? (ofFields negative b f) =
      some (if b = 0 then ⟨negative, f, -1074⟩
        else ⟨negative, f + 2 ^ 52, (b : Int) - 1075⟩) := by
  have hbits := toNat_toBits_ofFields negative (b := b) (by omega) hf (.inl (by omega))
  have hsign : (signBits negative + (b * 2 ^ 52 + f)) / 2 ^ 63 = negative.toNat := by
    cases negative <;> simp only [signBits, Bool.toNat] <;> simp <;> omega
  have hbiased : (signBits negative + (b * 2 ^ 52 + f)) / 2 ^ 52 % 2 ^ 11 = b := by
    cases negative <;> simp only [signBits] <;> simp <;> omega
  have hfraction : (signBits negative + (b * 2 ^ 52 + f)) % 2 ^ 52 = f := by
    cases negative <;> simp only [signBits] <;> simp <;> omega
  simp only [Binary.ofFloat?, hbits, twoTo_eq, hsign, hbiased, hfraction]
  rw [if_neg (by omega)]
  cases negative <;> split <;> rfl

/-- A double is finite and has parts, or it has none. -/
theorem ofFloat?_cases (x : Float) :
    (x.isFinite = false ∧ Binary.ofFloat? x = none) ∨
      (x.isFinite = true ∧ ∃ b, Binary.ofFloat? x = some b ∧
        b.mantissa < 2 ^ 53 ∧ -1074 ≤ b.exponent ∧ b.exponent ≤ 971) := by
  have hfraction : x.toBits.toNat % twoTo 52 < 2 ^ 52 := Nat.mod_lt _ (by decide)
  rw [← Bool.not_eq_true, isFinite_iff]
  by_cases hall : biasedExponent x.toBits.toNat = 2047
  · exact .inl ⟨not_not.2 hall, if_pos hall⟩
  · refine .inr ⟨hall, ?_⟩
    by_cases hzero : biasedExponent x.toBits.toNat = 0
    · exact ⟨_, (if_neg hall).trans (if_pos hzero), by simp only; omega, le_refl _, (by decide : (-1074 : Int) ≤ 971)⟩
    · refine ⟨_, (if_neg hall).trans (if_neg hzero), by simp only [twoTo_eq] at *; omega, ?_⟩
      have hbiased : biasedExponent x.toBits.toNat < 2 ^ 11 := Nat.mod_lt _ (by decide)
      show (-1074 : Int) ≤ (biasedExponent x.toBits.toNat : Int) - 1075 ∧
        (biasedExponent x.toBits.toNat : Int) - 1075 ≤ 971
      omega

theorem isFinite_of_ofFloat? {x : Float} {b : Binary} (h : Binary.ofFloat? x = some b) :
    x.isFinite = true := by
  obtain ⟨-, hnone⟩ | ⟨hfinite, -⟩ := ofFloat?_cases x
  · rw [hnone] at h
    cases h
  · exact hfinite

theorem isInf_ofFields (negative : Bool) : (ofFields negative 2047 0).isInf = true := by
  rw [isInf_iff, toNat_toBits_ofFields negative (by decide) (by decide) (.inr rfl)]
  cases negative <;> decide

/-! ## Rounding a quotient -/

/-- The rounded quotient is at most half a unit away. -/
theorem roundHalfEven_error (num : Nat) {den : Nat} (hden : 0 < den) :
    |(roundHalfEven num den : Rat) - num / den| ≤ 1 / 2 := by
  have hden' : (0 : Rat) < den := by exact_mod_cast hden
  have hdiv : ((num / den : Nat) * den + (num % den : Nat) : Rat) = num := by
    exact_mod_cast Nat.div_add_mod' num den
  have hquotient : (num : Rat) / den = (num / den : Nat) + (num % den : Nat) / den := by
    field_simp
    linarith
  obtain ⟨hround, hhalf⟩ | ⟨hround, hhalf⟩ :
      (roundHalfEven num den = num / den ∧ 2 * (num % den) ≤ den) ∨
        (roundHalfEven num den = num / den + 1 ∧ den ≤ 2 * (num % den)) := by
    unfold roundHalfEven
    grind
  · have hle : ((num % den : Nat) : Rat) / den ≤ 1 / 2 := by
      rw [div_le_div_iff₀ hden' two_pos]
      exact_mod_cast (by omega : num % den * 2 ≤ 1 * den)
    have hnonneg : (0 : Rat) ≤ (num % den : Nat) / den := by positivity
    rw [hround, hquotient, abs_le]
    constructor <;> linarith
  · have hge : 1 / 2 ≤ ((num % den : Nat) : Rat) / den := by
      rw [div_le_div_iff₀ two_pos hden']
      exact_mod_cast (by omega : 1 * den ≤ num % den * 2)
    have hlt : ((num % den : Nat) : Rat) / den < 1 := by
      rw [div_lt_one hden']
      exact_mod_cast Nat.mod_lt num hden
    rw [hround, hquotient, Nat.cast_succ, abs_le]
    constructor <;> linarith

/-- No natural number is nearer to the quotient. -/
theorem roundHalfEven_nearest (num : Nat) {den : Nat} (hden : 0 < den) (k : Nat) :
    |(roundHalfEven num den : Rat) - num / den| ≤ |(k : Rat) - num / den| := by
  have herror := roundHalfEven_error num hden
  by_cases hk : roundHalfEven num den = k
  · rw [hk]
  -- Another number is at least one unit away from the rounded quotient.
  have hunit : (1 : Int) ≤ |(roundHalfEven num den : Int) - k| :=
    Int.one_le_abs (sub_ne_zero.2 (by exact_mod_cast hk))
  have hunit' : (1 : Rat) ≤ |(roundHalfEven num den : Rat) - k| := by exact_mod_cast hunit
  have htriangle := abs_sub_le (roundHalfEven num den : Rat) (num / den) k
  rw [abs_sub_comm (num / den : Rat) k] at htriangle
  linarith

theorem roundHalfEven_le {num den k : Nat} (hden : 0 < den) (h : (num : Rat) / den ≤ k) :
    roundHalfEven num den ≤ k := by
  have herror := abs_le.1 (roundHalfEven_error num hden)
  have hlt : (roundHalfEven num den : Rat) < k + 1 := by linarith
  exact Nat.lt_succ_iff.1 (by exact_mod_cast hlt)

theorem le_roundHalfEven {num den k : Nat} (hden : 0 < den) (h : (k : Rat) ≤ num / den) :
    k ≤ roundHalfEven num den := by
  have herror := abs_le.1 (roundHalfEven_error num hden)
  have hlt : (k : Rat) < roundHalfEven num den + 1 := by linarith
  exact Nat.lt_succ_iff.1 (by exact_mod_cast hlt)

/-! ## Rounding at a scale -/

/-- The quotient rounded to a multiple of `2 ^ e`. -/
def scaled (num den : Nat) (e : Int) : Nat :=
  roundHalfEven (num * twoTo (-e).toNat) (den * twoTo e.toNat)

theorem two_zpow_eq_div (e : Int) : (2 : Rat) ^ e = (2 : Rat) ^ e.toNat / (2 : Rat) ^ (-e).toNat := by
  rw [← zpow_natCast, ← zpow_natCast, ← zpow_sub₀ two_ne_zero]
  congr 1
  omega

variable {num den : Nat} {e : Int}

theorem scaled_quotient (num den : Nat) (e : Int) :
    ((num * twoTo (-e).toNat : Nat) : Rat) / (den * twoTo e.toNat : Nat) = num / den / 2 ^ e := by
  rw [two_zpow_eq_div e]
  push_cast [twoTo_eq]
  field_simp

theorem scaled_den_pos (hden : 0 < den) (e : Int) : 0 < den * twoTo e.toNat :=
  Nat.mul_pos hden (Nat.two_pow_pos _)

theorem scaled_le (hden : 0 < den) {k : Nat} (h : (num : Rat) / den ≤ k * 2 ^ e) :
    scaled num den e ≤ k := by
  refine roundHalfEven_le (scaled_den_pos hden e) ?_
  rwa [scaled_quotient, div_le_iff₀ (by positivity)]

theorem le_scaled (hden : 0 < den) {k : Nat} (h : (k * 2 ^ e : Rat) ≤ num / den) :
    k ≤ scaled num den e := by
  refine le_roundHalfEven (scaled_den_pos hden e) ?_
  rwa [scaled_quotient, le_div_iff₀ (by positivity)]

/-- No multiple of `2 ^ e` is nearer to the quotient. -/
theorem scaled_nearest (num : Nat) (hden : 0 < den) (e : Int) (k : Nat) :
    |(scaled num den e * 2 ^ e : Rat) - num / den| ≤ |(k * 2 ^ e : Rat) - num / den| := by
  have hpos : (0 : Rat) < 2 ^ e := by positivity
  have hscale (a : Rat) : |a * 2 ^ e - num / den| = |a - num / den / 2 ^ e| * 2 ^ e := by
    rw [← abs_of_pos hpos, ← abs_mul, abs_of_pos hpos, sub_mul, div_mul_cancel₀ _ hpos.ne']
  have hnearest := roundHalfEven_nearest (num * twoTo (-e).toNat) (scaled_den_pos hden e) k
  rw [scaled_quotient] at hnearest
  rw [hscale, hscale]
  exact mul_le_mul_of_nonneg_right hnearest hpos.le

/-! ## The exponent -/

/-- The power of two that a quotient lies above, and the one that it lies below. -/
theorem quotient_bounds (hnum : 0 < num) (hden : 0 < den) :
    (2 : Rat) ^ ((num.log2 : Int) - den.log2 - 1) ≤ num / den ∧
      (num / den : Rat) ≤ 2 ^ ((num.log2 : Int) - den.log2 + 1) := by
  have hden' : (0 : Rat) < den := by exact_mod_cast hden
  have hnumLow : (2 : Rat) ^ num.log2 ≤ num := by exact_mod_cast Nat.log2_self_le hnum.ne'
  have hdenLow : (2 : Rat) ^ den.log2 ≤ den := by exact_mod_cast Nat.log2_self_le hden.ne'
  have hnumHigh : (num : Rat) ≤ 2 ^ (num.log2 + 1) := by exact_mod_cast Nat.lt_log2_self.le
  have hdenHigh : (den : Rat) ≤ 2 ^ (den.log2 + 1) := by exact_mod_cast Nat.lt_log2_self.le
  constructor
  · calc (2 : Rat) ^ ((num.log2 : Int) - den.log2 - 1)
        = 2 ^ num.log2 / 2 ^ (den.log2 + 1) := by
          rw [← zpow_natCast, ← zpow_natCast, ← zpow_sub₀ two_ne_zero]
          congr 1
          push_cast
          ring
      _ ≤ num / den := div_le_div₀ (by positivity) hnumLow hden' hdenHigh
  · calc (num / den : Rat) ≤ 2 ^ (num.log2 + 1) / 2 ^ den.log2 :=
          div_le_div₀ (by positivity) hnumHigh (by positivity) hdenLow
      _ = 2 ^ ((num.log2 : Int) - den.log2 + 1) := by
          rw [← zpow_natCast, ← zpow_natCast, ← zpow_sub₀ two_ne_zero]
          congr 1
          push_cast
          ring

/-- The scale at which a quotient has 53 or 54 binary digits, or the least one. -/
def firstScale (num den : Nat) : Int := max (-1074) ((num.log2 : Int) - den.log2 - 53)

/-- The scale at which a quotient has 53 binary digits, or the least one. -/
def scaleOf (num den : Nat) : Int :=
  if scaled num den (firstScale num den) ≤ twoTo 53 then firstScale num den
  else firstScale num den + 1

theorem two_zpow_mul (k : Nat) (e : Int) : ((2 ^ k : Nat) : Rat) * 2 ^ e = 2 ^ (k + e : Int) := by
  rw [zpow_add₀ two_ne_zero, zpow_natCast]
  push_cast
  rfl

theorem scaleOf_cases (num den : Nat) :
    (scaled num den (firstScale num den) ≤ 2 ^ 53 ∧ scaleOf num den = firstScale num den) ∨
      (¬ scaled num den (firstScale num den) ≤ 2 ^ 53 ∧
        scaleOf num den = firstScale num den + 1) := by
  rw [scaleOf, twoTo_eq]
  by_cases h : scaled num den (firstScale num den) ≤ 2 ^ 53
  · exact .inl ⟨h, if_pos h⟩
  · exact .inr ⟨h, if_neg h⟩

theorem le_firstScale (num den : Nat) : -1074 ≤ firstScale num den := le_max_left _ _

theorem le_scaleOf (num den : Nat) : -1074 ≤ scaleOf num den := by
  have hfirst := le_firstScale num den
  obtain ⟨-, hscale⟩ | ⟨-, hscale⟩ := scaleOf_cases num den <;> omega

/-- At its scale a quotient has 53 binary digits at most, or is rounded up to the next power. -/
theorem scaled_scaleOf_le (hnum : 0 < num) (hden : 0 < den) :
    scaled num den (scaleOf num den) ≤ 2 ^ 53 := by
  obtain ⟨hle, hscale⟩ | ⟨-, hscale⟩ := scaleOf_cases num den <;> rw [hscale]
  · exact hle
  · refine scaled_le hden ((quotient_bounds hnum hden).2.trans ?_)
    rw [two_zpow_mul]
    refine zpow_le_zpow_right₀ one_le_two ?_
    unfold firstScale
    push_cast
    omega

/-- Above the least scale a quotient has 53 binary digits. -/
theorem le_quotient_of_scaleOf (hnum : 0 < num) (hden : 0 < den)
    (hleast : scaleOf num den ≠ -1074) :
    ((2 ^ 52 : Nat) * 2 ^ scaleOf num den : Rat) ≤ num / den := by
  rw [two_zpow_mul]
  obtain ⟨-, hscale⟩ | ⟨hgreat, hscale⟩ := scaleOf_cases num den <;> rw [hscale] at hleast ⊢
  · refine le_trans (zpow_le_zpow_right₀ one_le_two ?_) (quotient_bounds hnum hden).1
    unfold firstScale at hleast ⊢
    push_cast
    omega
  · -- At the first scale the quotient has more than 53 digits.
    have hlt : ((2 ^ 53 : Nat) * 2 ^ firstScale num den : Rat) < num / den :=
      lt_of_not_ge fun hle => hgreat (scaled_le hden hle)
    refine le_trans (le_of_eq ?_) hlt.le
    rw [two_zpow_mul]
    congr 1
    push_cast
    ring

/-! ## No double is nearer -/

/-- Of all numbers that have 53 binary digits and no smaller exponent than doubles have, none is
nearer to a quotient than the one at its scale. -/
theorem scaled_scaleOf_nearest (hnum : 0 < num) (hden : 0 < den) {k : Nat} (hk : k < 2 ^ 53)
    {f : Int} (hf : -1074 ≤ f) :
    |(scaled num den (scaleOf num den) * 2 ^ scaleOf num den : Rat) - num / den| ≤
      |(k * 2 ^ f : Rat) - num / den| := by
  obtain hle | hlt := le_or_gt (scaleOf num den) f
  · -- A number with a greater exponent is a multiple of the unit at this scale.
    have hnearest := scaled_nearest num hden (scaleOf num den)
      (k * 2 ^ (f - scaleOf num den).toNat)
    have hexponent : ((f - scaleOf num den).toNat : Int) + scaleOf num den = f := by omega
    rwa [Nat.cast_mul, mul_assoc, two_zpow_mul, hexponent] at hnearest
  · -- A number with a smaller exponent lies below the least number with 53 digits at this scale.
    have hquotient := le_quotient_of_scaleOf hnum hden (by omega)
    have hbelow : (k * 2 ^ f : Rat) ≤ (2 ^ 52 : Nat) * 2 ^ scaleOf num den := by
      calc (k * 2 ^ f : Rat) ≤ (2 ^ 53 : Nat) * 2 ^ f := by
            have hk' : (k : Rat) ≤ (2 ^ 53 : Nat) := by exact_mod_cast hk.le
            gcongr
        _ ≤ (2 ^ 52 : Nat) * 2 ^ scaleOf num den := by
            rw [two_zpow_mul, two_zpow_mul]
            refine zpow_le_zpow_right₀ one_le_two ?_
            push_cast
            omega
    refine (scaled_nearest num hden (scaleOf num den) (2 ^ 52)).trans ?_
    rw [abs_of_nonpos (sub_nonpos.2 hquotient),
      abs_of_nonpos (sub_nonpos.2 (hbelow.trans hquotient))]
    exact neg_le_neg (sub_le_sub_right hbelow _)

/-- A mantissa at a scale, with one digit fewer where it has 54. -/
def normalized (m : Nat) (e : Int) : Nat × Int :=
  if m = twoTo 53 then (twoTo 52, e + 1) else (m, e)

theorem normalized_cases (m : Nat) (e : Int) :
    (m = 2 ^ 53 ∧ normalized m e = (2 ^ 52, e + 1)) ∨ (m ≠ 2 ^ 53 ∧ normalized m e = (m, e)) := by
  rw [normalized, twoTo_eq, twoTo_eq]
  by_cases hm : m = 2 ^ 53
  · exact .inl ⟨hm, if_pos hm⟩
  · exact .inr ⟨hm, if_neg hm⟩

theorem normalized_value (m : Nat) (e : Int) :
    ((normalized m e).1 * 2 ^ (normalized m e).2 : Rat) = m * 2 ^ e := by
  obtain ⟨rfl, h⟩ | ⟨-, h⟩ := normalized_cases m e
  · rw [h, two_zpow_mul, two_zpow_mul]
    congr 1
    push_cast
    ring
  · rw [h]

/-- The mantissa and the exponent to which a quotient is rounded. -/
def roundedParts (num den : Nat) : Nat × Int :=
  normalized (scaled num den (scaleOf num den)) (scaleOf num den)

theorem scaled_zero (den : Nat) (e : Int) : scaled 0 den e = 0 := by
  simp [scaled, roundHalfEven]

theorem roundedParts_zero (den : Nat) : roundedParts 0 den = (0, scaleOf 0 den) := by
  simp [roundedParts, scaled_zero, normalized]

theorem scaleOf_zero_neg (den : Nat) : scaleOf 0 den < 0 := by
  rw [scaleOf, scaled_zero, if_pos (by decide), firstScale, Nat.log2_zero]
  omega

/-- The mantissa has 53 binary digits at most, and fewer only at the least exponent or where it is
zero. -/
theorem roundedParts_bounds (num : Nat) (hden : 0 < den) :
    (roundedParts num den).1 < 2 ^ 53 ∧ -1074 ≤ (roundedParts num den).2 ∧
      ((roundedParts num den).1 < 2 ^ 52 → (roundedParts num den).2 = -1074 ∨
        ((roundedParts num den).1 = 0 ∧ (roundedParts num den).2 < 0)) := by
  have hscale := le_scaleOf num den
  obtain rfl | hnum := Nat.eq_zero_or_pos num
  · rw [roundedParts_zero]
    exact ⟨by norm_num, hscale, fun _ => .inr ⟨rfl, scaleOf_zero_neg den⟩⟩
  · have hle := scaled_scaleOf_le hnum hden
    unfold roundedParts
    obtain ⟨-, h⟩ | ⟨hne, h⟩ := normalized_cases (scaled num den (scaleOf num den))
      (scaleOf num den)
    · rw [h]
      dsimp only
      exact ⟨by norm_num, by omega, fun hlt => absurd hlt (lt_irrefl _)⟩
    · rw [h]
      dsimp only
      refine ⟨lt_of_le_of_ne hle hne, hscale, fun hlt => .inl ?_⟩
      by_contra hnot
      exact absurd (le_scaled hden (le_quotient_of_scaleOf hnum hden hnot)) (Nat.not_le.2 hlt)

/-- Of all numbers that have 53 binary digits and no smaller exponent than doubles have, none is
nearer to a quotient than the rounded one. -/
theorem roundedParts_nearest (num : Nat) (hden : 0 < den) {k : Nat} (hk : k < 2 ^ 53) {f : Int}
    (hf : -1074 ≤ f) :
    |((roundedParts num den).1 * 2 ^ (roundedParts num den).2 : Rat) - num / den| ≤
      |(k * 2 ^ f : Rat) - num / den| := by
  rw [roundedParts, normalized_value]
  obtain rfl | hnum := Nat.eq_zero_or_pos num
  · rw [scaled_zero, Nat.cast_zero, zero_mul, zero_div, sub_self, abs_zero]
    exact abs_nonneg _
  · exact scaled_scaleOf_nearest hnum hden hk hf

/-- The bits of a mantissa and an exponent without the sign. -/
def magnitudeBits (den m : Nat) (e : Int) : Nat :=
  if den = 0 ∨ 971 < e then 2047 * twoTo 52
  else if m < twoTo 52 then m
  else (e + 1075).toNat * twoTo 52 + (m - twoTo 52)

theorem nearestFloat_eq (negative : Bool) (num den : Nat) :
    nearestFloat negative num den = Float.ofBits (UInt64.ofNat (signBits negative +
      magnitudeBits den (roundedParts num den).1 (roundedParts num den).2)) := by
  have hbits (n : Nat) : (if negative then twoTo 63 + n else n) = signBits negative + n := by
    cases negative <;> simp [signBits]
  rw [← hbits]
  unfold nearestFloat magnitudeBits roundedParts normalized scaleOf firstScale scaled
  with_reducible rfl

/-- The double nearest to a quotient is infinite if the quotient is too large, and otherwise has the
rounded value. -/
theorem nearestFloat_cases (negative : Bool) (num den : Nat) :
    ((den = 0 ∨ 971 < (roundedParts num den).2) ∧ (nearestFloat negative num den).isInf = true) ∨
      (den ≠ 0 ∧ (roundedParts num den).2 ≤ 971 ∧
        ∃ b, Binary.ofFloat? (nearestFloat negative num den) = some b ∧ b.negative = negative ∧
          (b.mantissa * 2 ^ b.exponent : Rat) =
            (roundedParts num den).1 * 2 ^ (roundedParts num den).2) := by
  rw [nearestFloat_eq]
  by_cases hlarge : den = 0 ∨ 971 < (roundedParts num den).2
  · rw [magnitudeBits, if_pos hlarge]
    exact .inl ⟨hlarge, isInf_ofFields negative⟩
  · obtain ⟨hden, hexponent⟩ := not_or.1 hlarge
    obtain ⟨hlt, hge, hsmall⟩ := roundedParts_bounds num (Nat.pos_of_ne_zero hden)
    rw [magnitudeBits, if_neg hlarge]
    refine .inr ⟨hden, not_lt.1 hexponent, ?_⟩
    generalize (roundedParts num den).1 = m at hlt hsmall ⊢
    generalize (roundedParts num den).2 = e at hexponent hge hsmall ⊢
    by_cases hm : m < 2 ^ 52
    · have hparts := ofFloat?_ofFields negative (b := 0) (by decide) hm
      rw [ofFields, Nat.zero_mul, Nat.zero_add] at hparts
      rw [twoTo_eq, if_pos hm]
      refine ⟨_, hparts, rfl, ?_⟩
      obtain rfl | ⟨rfl, -⟩ := hsmall hm
      · rfl
      · simp
    · have hparts := ofFloat?_ofFields negative (b := (e + 1075).toNat)
        (f := m - 2 ^ 52) (by omega) (by omega)
      have hmantissa : m - 2 ^ 52 + 2 ^ 52 = m := by omega
      have hbiased : ((e + 1075).toNat : Int) - 1075 = e := by omega
      rw [ofFields, if_neg (by omega), hmantissa, hbiased] at hparts
      rw [twoTo_eq, if_neg hm]
      exact ⟨_, hparts, rfl, rfl⟩

/-! ## Values -/

/-- A magnitude with a sign. -/
def signed (negative : Bool) (q : Rat) : Rat := if negative then -q else q

theorem abs_signed (negative : Bool) {q : Rat} (hq : 0 ≤ q) : |signed negative q| = q := by
  cases negative <;> simp [signed, abs_of_nonneg hq]

theorem abs_signed_sub_signed (negative : Bool) (p q : Rat) :
    |signed negative p - signed negative q| = |p - q| := by
  cases negative
  · rfl
  · show |-p - -q| = |p - q|
    rw [neg_sub_neg, abs_sub_comm]

theorem num_div_den (b : Binary) : (b.num / b.den : Rat) = b.mantissa * 2 ^ b.exponent := by
  rw [Binary.num, Binary.den, two_zpow_eq_div b.exponent]
  push_cast [twoTo_eq]
  ring

/-- The value of a double is that of its parts. -/
theorem exactly_of_ofFloat? {x : Float} {b : Binary} (h : Binary.ofFloat? x = some b) :
    Store.Cell.exactly x = .real (signed b.negative (b.mantissa * 2 ^ b.exponent)) := by
  rw [← num_div_den]
  simp only [Store.Cell.exactly, h]
  rfl

theorem isFinite_of_exactly {y : Float} {w : Rat} (h : Store.Cell.exactly y = .real w) :
    y.isFinite = true := by
  obtain ⟨-, hnone⟩ | ⟨hfinite, -⟩ := ofFloat?_cases y
  · simp only [Store.Cell.exactly, hnone] at h
    split at h <;> cases h
  · exact hfinite

theorem exists_parts_of_exactly {y : Float} {w : Rat} (h : Store.Cell.exactly y = .real w) :
    ∃ (k : Nat) (f : Int), k < 2 ^ 53 ∧ -1074 ≤ f ∧ |w| = k * 2 ^ f := by
  obtain ⟨hnot, -⟩ | ⟨-, b, hb, hk, hf, -⟩ := ofFloat?_cases y
  · rw [isFinite_of_exactly h] at hnot
    cases hnot
  · rw [exactly_of_ofFloat? hb] at h
    cases h
    exact ⟨b.mantissa, b.exponent, hk, hf, abs_signed b.negative (by positivity)⟩

/-- The double `x` has a value, and no double has one nearer to `q`. -/
def IsNearest (x : Float) (q : Rat) : Prop :=
  ∃ v, Store.Cell.exactly x = .real v ∧
    ∀ y w, Store.Cell.exactly y = .real w → |v - q| ≤ |w - q|

theorem IsNearest.isFinite {x : Float} {q : Rat} (h : IsNearest x q) : x.isFinite = true := by
  obtain ⟨v, hv, -⟩ := h
  exact isFinite_of_exactly hv

/-- The double nearest to a quotient is infinite or a number. -/
theorem isInf_or_isFinite_nearestFloat (negative : Bool) (num den : Nat) :
    (nearestFloat negative num den).isInf = true ∨
      (nearestFloat negative num den).isFinite = true := by
  obtain ⟨-, hinf⟩ | ⟨-, -, b, hb, -⟩ := nearestFloat_cases negative num den
  · exact .inl hinf
  · exact .inr (isFinite_of_ofFloat? hb)

theorem not_isInf_of_isFinite {x : Float} (h : x.isFinite = true) : ¬x.isInf = true := fun hinf =>
  (isFinite_iff x).1 h ((isInf_iff x).1 hinf).1

/-- A finite double that is computed for a quotient is the nearest one. -/
theorem isNearest_nearestFloat (negative : Bool) (num : Nat) (hden : 0 < den)
    (hfinite : (nearestFloat negative num den).isFinite = true) :
    IsNearest (nearestFloat negative num den) (signed negative (num / den)) := by
  obtain ⟨-, hinf⟩ | ⟨-, -, b, hb, rfl, hvalue⟩ := nearestFloat_cases negative num den
  · exact absurd hinf (not_isInf_of_isFinite hfinite)
  · refine ⟨_, exactly_of_ofFloat? hb, fun y w hy => ?_⟩
    obtain ⟨k, f, hk, hf, hw⟩ := exists_parts_of_exactly hy
    have hq : |signed b.negative (num / den : Rat)| = num / den :=
      abs_signed b.negative (by positivity)
    calc |signed b.negative (b.mantissa * 2 ^ b.exponent) - signed b.negative (num / den : Rat)|
        = |((roundedParts num den).1 * 2 ^ (roundedParts num den).2 : Rat) - num / den| := by
          rw [abs_signed_sub_signed, hvalue]
      _ ≤ |(k * 2 ^ f : Rat) - num / den| := roundedParts_nearest num hden hk hf
      _ = |(|w| - |signed b.negative (num / den : Rat)|)| := by rw [hw, hq]
      _ ≤ |w - signed b.negative (num / den : Rat)| := abs_abs_sub_abs_le _ _

/-- The greatest double. -/
def greatestDouble : Nat := (2 ^ 53 - 1) * 2 ^ 971

theorem greatestDouble_eq :
    (greatestDouble : Rat) = ((2 ^ 53 - 1 : Nat) : Rat) * 2 ^ (971 : Int) := by
  rw [greatestDouble, Nat.cast_mul, Nat.cast_pow, ← zpow_natCast, Nat.cast_ofNat, Nat.cast_ofNat]

/-- A quotient up to the greatest double is not rounded beyond it. -/
theorem roundedParts_le (hden : 0 < den) (hquotient : (num / den : Rat) ≤ greatestDouble) :
    (roundedParts num den).2 ≤ 971 := by
  by_contra hlarge
  obtain ⟨-, -, hsmall⟩ := roundedParts_bounds num hden
  have hmantissa : ((2 ^ 52 : Nat) : Rat) ≤ (roundedParts num den).1 := by
    exact_mod_cast Nat.not_lt.1 fun hlt => by have := hsmall hlt; omega
  have hbeyond : (greatestDouble : Rat) <
      (roundedParts num den).1 * 2 ^ (roundedParts num den).2 := by
    calc (greatestDouble : Rat) < (2 ^ 53 : Nat) * 2 ^ (971 : Int) := by
          rw [greatestDouble_eq]
          gcongr
          decide
      _ = (2 ^ 52 : Nat) * 2 ^ (972 : Int) := by
          rw [two_zpow_mul, two_zpow_mul]
          congr 1
      _ ≤ (roundedParts num den).1 * 2 ^ (roundedParts num den).2 :=
          mul_le_mul hmantissa
            (zpow_le_zpow_right₀ one_le_two (Int.add_one_le_of_lt (not_le.1 hlarge)))
            (by positivity) (Nat.cast_nonneg _)
  have hnearest := roundedParts_nearest num hden (k := 2 ^ 53 - 1) (by decide) (f := 971)
    (by decide)
  rw [← greatestDouble_eq, abs_of_nonneg (by linarith), abs_of_nonneg (by linarith)] at hnearest
  linarith

/-- A quotient up to the greatest double is rounded to a number. -/
theorem isFinite_nearestFloat_of_le (negative : Bool) {num den : Nat} (hden : 0 < den)
    (h : num ≤ greatestDouble * den) : (nearestFloat negative num den).isFinite = true := by
  obtain ⟨hlarge, -⟩ | ⟨-, -, b, hb, -⟩ := nearestFloat_cases negative num den
  · obtain rfl | hlt := hlarge
    · exact absurd hden (lt_irrefl 0)
    · refine absurd (roundedParts_le hden ?_) (not_le.2 hlt)
      rw [div_le_iff₀ (by exact_mod_cast hden)]
      exact_mod_cast h
  · exact isFinite_of_ofFloat? hb

end Electorate.Number
