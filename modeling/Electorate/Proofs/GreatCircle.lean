import Mathlib
import Electorate.Geo.Globe

/-!
# Great circles in real numbers

The program computes lengths on the globe in doubles, whose sine and cosine are primitives that
nothing can be proved of. Read over the real numbers, the same formulas are those of spherical
trigonometry.

* The instance of `GlobeNumber` for the real numbers, where the functions are the exact ones.
* `cosAngle`: the cosine of the angle between two points, as seen from the center of the globe.
* `haversine_eq`: the great-circle distance by that cosine.
* `haversine_le_iff`, `haversine_le_half`: which points lie within a distance.
-/

namespace Electorate.Geo

noncomputable instance : GlobeNumber ℝ where
  pi := Real.pi
  sin := Real.sin
  cos := Real.cos
  asin := Real.arcsin
  sqrt := Real.sqrt
  lt x y := decide (x < y)
  le x y := decide (x ≤ y)

variable {lat lng lat' lng' meters : ℝ}

theorem lt_iff {x y : ℝ} : GlobeNumber.lt x y = true ↔ x < y := decide_eq_true_iff

theorem le_iff {x y : ℝ} : GlobeNumber.le x y = true ↔ x ≤ y := decide_eq_true_iff

theorem radians_eq (degrees : ℝ) : radians degrees = degrees * (Real.pi / 180) := by
  have h : radians degrees = degrees * (Real.pi / 180.0) := rfl
  rw [h]
  norm_num

theorem earthRadius_eq : (earthRadius : ℝ) = 6371008.8 := rfl

theorem earthRadius_pos : 0 < (earthRadius : ℝ) := by
  rw [earthRadius_eq]
  norm_num

/-- The cosine of the angle between two points, as seen from the center of the globe. -/
noncomputable def cosAngle (lat lng lat' lng' : ℝ) : ℝ :=
  Real.sin (radians lat) * Real.sin (radians lat') +
    Real.cos (radians lat) * Real.cos (radians lat') * Real.cos (radians (lng' - lng))

theorem radians_sub (a b : ℝ) : radians (a - b) = radians a - radians b := by
  simp only [radians_eq]
  ring

theorem sin_half_sq (x : ℝ) : Real.sin (x / 2) ^ 2 = (1 - Real.cos x) / 2 := by
  rw [Real.sin_sq_eq_half_sub, mul_div_cancel₀ x two_ne_zero]
  ring

/-- The great-circle distance by the cosine of the angle. -/
theorem haversine_eq (lat lng lat' lng' : ℝ) :
    haversine lat lng lat' lng' =
      2 * earthRadius * Real.arcsin (Real.sqrt ((1 - cosAngle lat lng lat' lng') / 2)) := by
  have hformula : haversine lat lng lat' lng' =
      2.0 * earthRadius * Real.arcsin (Real.sqrt
        (Real.sin (radians (lat' - lat) / 2.0) * Real.sin (radians (lat' - lat) / 2.0) +
          Real.cos (radians lat) * Real.cos (radians lat') *
            (Real.sin (radians (lng' - lng) / 2.0) * Real.sin (radians (lng' - lng) / 2.0)))) :=
    rfl
  have htwo : (2.0 : ℝ) = 2 := by norm_num
  rw [hformula, htwo, ← sq, ← sq, sin_half_sq, sin_half_sq, radians_sub lat' lat, Real.cos_sub]
  have harg : (1 - (Real.cos (radians lat') * Real.cos (radians lat) +
        Real.sin (radians lat') * Real.sin (radians lat))) / 2 +
      Real.cos (radians lat) * Real.cos (radians lat') *
        ((1 - Real.cos (radians (lng' - lng))) / 2) = (1 - cosAngle lat lng lat' lng') / 2 := by
    unfold cosAngle
    ring
  rw [harg]

/-- No two points are farther from one another than half way around the globe. -/
theorem haversine_le_half (lat lng lat' lng' : ℝ) :
    haversine lat lng lat' lng' ≤ earthRadius * Real.pi := by
  rw [haversine_eq]
  have hangle := Real.arcsin_le_pi_div_two (Real.sqrt ((1 - cosAngle lat lng lat' lng') / 2))
  nlinarith [earthRadius_pos]

/-- Points within a distance less than half way around are those at a smaller angle. -/
theorem haversine_le_iff (hpos : 0 ≤ meters) (hhalf : meters < earthRadius * Real.pi) :
    haversine lat lng lat' lng' ≤ meters ↔
      Real.cos (meters / earthRadius) ≤ cosAngle lat lng lat' lng' := by
  have hR := earthRadius_pos
  set angle := meters / earthRadius with hangle
  have hnonneg : 0 ≤ angle := div_nonneg hpos hR.le
  have hlt : angle < Real.pi := by rwa [hangle, div_lt_iff₀ hR, mul_comm]
  have hsin : 0 ≤ Real.sin (angle / 2) :=
    Real.sin_nonneg_of_nonneg_of_le_pi (by linarith) (by linarith)
  rw [haversine_eq]
  -- Half of the angle is less than a right one, where the sine grows.
  calc 2 * earthRadius * Real.arcsin (Real.sqrt ((1 - cosAngle lat lng lat' lng') / 2)) ≤ meters
      ↔ Real.arcsin (Real.sqrt ((1 - cosAngle lat lng lat' lng') / 2)) ≤ angle / 2 := by
        rw [hangle, div_div, le_div_iff₀ (by positivity)]
        ring_nf
    _ ↔ Real.sqrt ((1 - cosAngle lat lng lat' lng') / 2) ≤ Real.sin (angle / 2) :=
        Real.arcsin_le_iff_le_sin' ⟨by linarith [Real.pi_pos], by linarith⟩
    _ ↔ (1 - cosAngle lat lng lat' lng') / 2 ≤ (1 - Real.cos angle) / 2 := by
        rw [Real.sqrt_le_left hsin, sin_half_sq]
    _ ↔ Real.cos angle ≤ cosAngle lat lng lat' lng' := by
        constructor <;> intro h <;> linarith

end Electorate.Geo
