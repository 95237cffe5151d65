import Electorate.Proofs.GreatCircle

/-!
# The box around a circle

A point is first sought in a box around the circle, and only in the box its distance counts. The
formulas are read over the real numbers.

* `OnGlobe`: the coordinates of a point.
* `reaches_iff`: what the two stages ask of a point.
* `exists_beyond`: as long as the box leaves out a part of the globe, some point of the circle lies
  beside it. If the circle holds a pole, this is the pole under another longitude
  (`exists_beside_pole`), otherwise a point of a meridian that the box just leaves out
  (`exists_beside_meridian`).
* `box_encloses_iff`: the box leaves out no point of the circle exactly if it is the whole globe.
-/

namespace Electorate.Geo

open Real (pi_pos)

/-- The coordinates of a point on the globe. -/
structure OnGlobe (lat lng : ℝ) : Prop where
  south : -90 ≤ lat
  north : lat ≤ 90
  west : -180 ≤ lng
  east : lng ≤ 180

variable {lat lng lat' lng' meters miles : ℝ}

/-! ## Degrees and radians -/

theorem radians_le_radians {a b : ℝ} : radians a ≤ radians b ↔ a ≤ b := by
  rw [radians_eq, radians_eq, mul_le_mul_iff_left₀ (by positivity)]

theorem radians_zero : radians (0 : ℝ) = 0 := by rw [radians_eq, zero_mul]

theorem radians_ninety : radians (90 : ℝ) = Real.pi / 2 := by
  rw [radians_eq]
  ring

theorem radians_neg (degrees : ℝ) : radians (-degrees) = -radians degrees := by
  rw [radians_eq, radians_eq, neg_mul]

theorem abs_radians (degrees : ℝ) : |radians degrees| = radians |degrees| := by
  rw [radians_eq, radians_eq, abs_mul, abs_of_pos (by positivity : (0 : ℝ) < Real.pi / 180)]

theorem exists_degrees (angle : ℝ) : ∃ degrees : ℝ, radians degrees = angle :=
  ⟨angle / (Real.pi / 180), by rw [radians_eq, div_mul_cancel₀ _ (by positivity)]⟩

theorem OnGlobe.abs_radians_le (h : OnGlobe lat lng) : |radians lat| ≤ Real.pi / 2 := by
  rw [abs_radians, ← radians_ninety, radians_le_radians]
  exact abs_le.mpr ⟨h.south, h.north⟩

/-! ## What the two stages ask -/

theorem degreesOf_eq_ite (meters lat : ℝ) : degreesOf meters lat =
    if meters ≤ 0 then 0
    else if Real.cos (radians lat) ≤ 1e-9 then 360
    else max (meters / 111320) (meters / (111320 * Real.cos (radians lat))) := by
  have h : degreesOf meters lat =
      if GlobeNumber.le meters (0.0 : ℝ) then 0.0
      else if GlobeNumber.le (Real.cos (radians lat)) (1e-9 : ℝ) then 360.0
      else if GlobeNumber.lt (meters / 111320.0)
          (meters / (111320.0 * Real.cos (radians lat))) then
        meters / (111320.0 * Real.cos (radians lat))
      else meters / 111320.0 := rfl
  rw [h, max_def_lt]
  simp only [le_iff, lt_iff]
  norm_num

/-- Away from the poles the degrees of longitude count, which are the shorter ones. -/
theorem degreesOf_eq (hpos : 0 < meters) (hcos : 1e-9 < Real.cos (radians lat)) :
    degreesOf meters lat = meters / (111320 * Real.cos (radians lat)) := by
  have hcos0 : 0 < Real.cos (radians lat) := lt_trans (by norm_num) hcos
  have hle : 111320 * Real.cos (radians lat) ≤ 111320 := by
    linarith [Real.cos_le_one (radians lat)]
  rw [degreesOf_eq_ite, if_neg hpos.not_ge, if_neg hcos.not_ge, max_eq_right]
  exact div_le_div_of_nonneg_left hpos.le (by positivity) hle

theorem degreesOf_of_pole (hpos : 0 < meters) (hcos : Real.cos (radians lat) ≤ 1e-9) :
    degreesOf meters lat = 360 := by
  rw [degreesOf_eq_ite, if_neg hpos.not_ge, if_pos hcos]

/-- A point is reached if it lies in the box and is near enough. -/
theorem reaches_iff : reaches lat lng meters lat' lng' = true ↔
    (|lng' - lng| ≤ degreesOf meters lat ∧ |lat' - lat| ≤ degreesOf meters lat) ∧
      haversine lat lng lat' lng' ≤ meters := by
  set width := degreesOf meters lat with hwidth
  have h : reaches lat lng meters lat' lng' =
      (GlobeNumber.le (lng - width) lng' && GlobeNumber.le lng' (lng + width) &&
        GlobeNumber.le (lat - width) lat' && GlobeNumber.le lat' (lat + width) &&
          GlobeNumber.le (haversine lat lng lat' lng') meters) := rfl
  rw [h]
  simp only [Bool.and_eq_true, le_iff, abs_le]
  constructor
  · rintro ⟨⟨⟨⟨hwest, heast⟩, hsouth⟩, hnorth⟩, hnear⟩
    exact ⟨⟨⟨by linarith, by linarith⟩, by linarith, by linarith⟩, hnear⟩
  · rintro ⟨⟨⟨hwest, heast⟩, hsouth, hnorth⟩, hnear⟩
    exact ⟨⟨⟨⟨by linarith, by linarith⟩, by linarith⟩, by linarith⟩, hnear⟩

/-! ## Points of the circle beside the box -/

/-- Some point lies at a given distance in longitude, on the side of the prime meridian. -/
theorem exists_longitude (hg : OnGlobe lat lng) {width : ℝ} (h0 : 0 ≤ width)
    (h : width ≤ 180 + |lng|) : ∃ lng', -180 ≤ lng' ∧ lng' ≤ 180 ∧ |lng' - lng| = width := by
  obtain ⟨-, -, hwest, heast⟩ := hg
  rcases le_total 0 lng with hs | hs
  · rw [abs_of_nonneg hs] at h
    refine ⟨lng - width, by linarith, by linarith, ?_⟩
    rw [sub_sub_cancel_left, abs_neg, abs_of_nonneg h0]
  · rw [abs_of_nonpos hs] at h
    refine ⟨lng + width, by linarith, by linarith, ?_⟩
    rw [add_sub_cancel_left, abs_of_nonneg h0]

/-- Points at a smaller angle than the radius are within it. -/
theorem haversine_le (hpos : 0 ≤ meters)
    (h : meters < earthRadius * Real.pi →
      Real.cos (meters / earthRadius) ≤ cosAngle lat lng lat' lng') :
    haversine lat lng lat' lng' ≤ meters := by
  by_cases hhalf : meters < earthRadius * Real.pi
  · exact (haversine_le_iff hpos hhalf).mpr (h hhalf)
  · exact (haversine_le_half lat lng lat' lng').trans (not_lt.mp hhalf)

/-- One of the poles lies at an angle that completes the latitude to a right one. -/
theorem exists_pole (lat lng : ℝ) : ∃ lat', -90 ≤ lat' ∧ lat' ≤ 90 ∧ ∀ lng',
    cosAngle lat lng lat' lng' = Real.cos (Real.pi / 2 - |radians lat|) := by
  -- It is the pole on the side of the equator that the point lies on.
  rw [Real.cos_pi_div_two_sub]
  rcases le_total 0 (radians lat) with hs | hs
  · refine ⟨90, by norm_num, le_rfl, fun lng' => ?_⟩
    rw [cosAngle, radians_ninety, Real.sin_pi_div_two, Real.cos_pi_div_two, abs_of_nonneg hs]
    ring
  · refine ⟨-90, le_rfl, by norm_num, fun lng' => ?_⟩
    rw [cosAngle, radians_neg, radians_ninety, Real.sin_neg, Real.cos_neg, Real.sin_pi_div_two,
      Real.cos_pi_div_two, abs_of_nonpos hs, Real.sin_neg]
    ring

/-- A circle that holds a pole has a point at every longitude. -/
theorem exists_beside_pole (hg : OnGlobe lat lng) (hpos : 0 < meters)
    (hpole : Real.pi / 2 - |radians lat| ≤ meters / earthRadius) {width : ℝ} (h0 : 0 ≤ width)
    (hwidth : width ≤ 180 + |lng|) : ∃ lat' lng', OnGlobe lat' lng' ∧
      haversine lat lng lat' lng' ≤ meters ∧ |lng' - lng| = width := by
  obtain ⟨lat', hsouth, hnorth, hangle⟩ := exists_pole lat lng
  obtain ⟨lng', hwest, heast, hdist⟩ := exists_longitude hg h0 hwidth
  refine ⟨lat', lng', ⟨hsouth, hnorth, hwest, heast⟩, haversine_le hpos.le fun hhalf => ?_, hdist⟩
  have hlt : meters / earthRadius < Real.pi := by
    rwa [div_lt_iff₀ earthRadius_pos, mul_comm]
  rw [hangle]
  exact Real.cos_le_cos_of_nonneg_of_le_pi (by linarith [hg.abs_radians_le]) hlt.le hpole

/-- Of a meridian, the point that is nearest to a place. -/
theorem exists_foot (a : ℝ) {b : ℝ} (hb : 0 < b) : ∃ angle, |angle| ≤ Real.pi / 2 ∧
    a * Real.sin angle + b * Real.cos angle = Real.sqrt (a ^ 2 + b ^ 2) := by
  refine ⟨Real.arctan (a / b), ?_, ?_⟩
  · obtain ⟨hlow, hhigh⟩ := Real.arctan_mem_Ioo (a / b)
    exact abs_le.mpr ⟨hlow.le, hhigh.le⟩
  · have hroot : Real.sqrt (a ^ 2 + b ^ 2) = b * Real.sqrt (1 + (a / b) ^ 2) := by
      have hsquare : a ^ 2 + b ^ 2 = b ^ 2 * (1 + (a / b) ^ 2) := by field_simp; ring
      rw [hsquare, Real.sqrt_mul (sq_nonneg b), Real.sqrt_sq hb.le]
    have hpos : 0 < Real.sqrt (1 + (a / b) ^ 2) := Real.sqrt_pos.mpr (by positivity)
    have hsq : Real.sqrt (1 + (a / b) ^ 2) ^ 2 = 1 + (a / b) ^ 2 := Real.sq_sqrt (by positivity)
    rw [Real.sin_arctan, Real.cos_arctan, hroot]
    generalize Real.sqrt (1 + (a / b) ^ 2) = root at hpos hsq
    calc a * (a / b / root) + b * (1 / root) = b * (1 + (a / b) ^ 2) / root := by
          field_simp
          ring
      _ = b * root := by
          rw [← hsq]
          field_simp

/-- The sine grows more slowly than its argument. -/
theorem mul_sin_le_sin_mul {c angle : ℝ} (hc : 0 ≤ c) (hc1 : c ≤ 1) (h0 : 0 ≤ angle)
    (hpi : angle ≤ Real.pi) : c * Real.sin angle ≤ Real.sin (c * angle) := by
  have hconcave := strictConcaveOn_sin_Icc.concaveOn.2 (Set.left_mem_Icc.mpr pi_pos.le) ⟨h0, hpi⟩
    (sub_nonneg.mpr hc1) hc (sub_add_cancel 1 c)
  simpa using hconcave

/-- The angle that is left to the pole bounds the cosine of the latitude from below. -/
theorem lt_cos_mul {angle φ : ℝ} (h0 : 0 ≤ angle) (h : angle < Real.pi / 2 - |φ|) :
    angle < Real.cos φ * (Real.pi / 2) := by
  have hle := Real.mul_le_sin (x := Real.pi / 2 - |φ|) (by linarith) (by linarith [abs_nonneg φ])
  rw [Real.sin_pi_div_two_sub, Real.cos_abs] at hle
  have hlt : 2 / Real.pi * angle < Real.cos φ := lt_of_lt_of_le (by gcongr) hle
  rw [div_mul_eq_mul_div, div_lt_iff₀ pi_pos] at hlt
  linarith

/-- The nearest point of a meridian is not farther than the part of its parallel up to it. -/
theorem cos_le_sqrt {φ beside : ℝ} (hcos : 0 ≤ Real.cos φ) (h0 : 0 ≤ beside)
    (hpi : beside ≤ Real.pi) : Real.cos (Real.cos φ * beside) ≤
      Real.sqrt (Real.sin φ ^ 2 + (Real.cos φ * Real.cos beside) ^ 2) := by
  have hsin : (Real.cos φ * Real.sin beside) ^ 2 ≤ Real.sin (Real.cos φ * beside) ^ 2 :=
    pow_le_pow_left₀ (mul_nonneg hcos (Real.sin_nonneg_of_nonneg_of_le_pi h0 hpi))
      (mul_sin_le_sin_mul hcos (Real.cos_le_one φ) h0 hpi) 2
  refine Real.le_sqrt_of_sq_le ?_
  calc Real.cos (Real.cos φ * beside) ^ 2
      = 1 - Real.sin (Real.cos φ * beside) ^ 2 := Real.cos_sq' _
    _ ≤ 1 - (Real.cos φ * Real.sin beside) ^ 2 := by linarith
    _ = Real.sin φ ^ 2 + (Real.cos φ * Real.cos beside) ^ 2 := by
      rw [Real.sin_sq, mul_pow, mul_pow, Real.cos_sq' beside]
      ring

/-- A circle without a pole has a point at the longitude whose difference, in radians, is the angle
of the radius divided by the cosine of the latitude. -/
theorem exists_beside_meridian (hg : OnGlobe lat lng) (hpos : 0 < meters)
    (hpole : meters / earthRadius < Real.pi / 2 - |radians lat|) {width : ℝ}
    (hwidth : radians width * Real.cos (radians lat) = meters / earthRadius) :
    ∃ lat' lng', OnGlobe lat' lng' ∧ haversine lat lng lat' lng' ≤ meters ∧
      |lng' - lng| = width := by
  have hangle : 0 < meters / earthRadius := div_pos hpos earthRadius_pos
  -- The meridian is less than a right angle away, so that it is on the globe on one side.
  have hlt := lt_cos_mul hangle.le hpole
  have hcos : 0 < Real.cos (radians lat) :=
    pos_of_mul_pos_left (hangle.trans hlt) (by positivity)
  have hbeside0 : 0 < radians width := pos_of_mul_pos_left (hwidth ▸ hangle) hcos.le
  have hbeside1 : radians width < Real.pi / 2 := by
    rw [← hwidth, mul_comm] at hlt
    exact lt_of_mul_lt_mul_left hlt hcos.le
  have hwidth0 : 0 ≤ width := by
    rw [← radians_le_radians, radians_zero]
    exact hbeside0.le
  have hwidth1 : width ≤ 90 := by
    rw [← radians_le_radians, radians_ninety]
    exact hbeside1.le
  obtain ⟨lng', hwest, heast, hdist⟩ :=
    exists_longitude hg hwidth0 (by linarith [abs_nonneg lng])
  have hcosb : 0 < Real.cos (radians width) :=
    Real.cos_pos_of_mem_Ioo ⟨by linarith, hbeside1⟩
  -- Of the meridian the foot of the perpendicular from the center is nearest.
  obtain ⟨foot, hfoot, hcosine⟩ := exists_foot (Real.sin (radians lat)) (mul_pos hcos hcosb)
  obtain ⟨lat', rfl⟩ := exists_degrees foot
  have hlat : |lat'| ≤ 90 := by
    rwa [← radians_le_radians, ← abs_radians, radians_ninety]
  refine ⟨lat', lng', ⟨neg_le_of_abs_le hlat, le_of_abs_le hlat, hwest, heast⟩,
    haversine_le hpos.le fun _ => ?_, hdist⟩
  have hcosAngle : cosAngle lat lng lat' lng' = Real.sqrt
      (Real.sin (radians lat) ^ 2 + (Real.cos (radians lat) * Real.cos (radians width)) ^ 2) := by
    rw [cosAngle, ← Real.cos_abs (radians (lng' - lng)), abs_radians, hdist, ← hcosine]
    ring
  rw [hcosAngle, ← hwidth, mul_comm]
  exact cos_le_sqrt hcos.le hbeside0.le (by linarith)

/-- A degree of latitude is shorter than the program takes it to be. -/
theorem earthRadius_mul_lt : earthRadius * (Real.pi / 180) < 111320 := by
  rw [earthRadius_eq]
  linarith [Real.pi_lt_d4]

/-- So the degrees that the program finds in a length are too few. -/
theorem degreesOf_lt (hpos : 0 < meters) (hcos : 1e-9 < Real.cos (radians lat)) {width : ℝ}
    (hwidth : radians width * Real.cos (radians lat) = meters / earthRadius) :
    degreesOf meters lat < width := by
  have hcos0 : 0 < Real.cos (radians lat) := lt_trans (by norm_num) hcos
  have hwidth0 : 0 < width := by
    have hprod : 0 < width * (Real.pi / 180 * Real.cos (radians lat)) := by
      rw [← mul_assoc, ← radians_eq, hwidth]
      exact div_pos hpos earthRadius_pos
    exact pos_of_mul_pos_left hprod (by positivity)
  rw [degreesOf_eq hpos hcos, div_lt_iff₀ (by positivity)]
  calc meters = radians width * Real.cos (radians lat) * earthRadius := by
        rw [hwidth, div_mul_cancel₀ _ earthRadius_pos.ne']
    _ = width * (earthRadius * (Real.pi / 180) * Real.cos (radians lat)) := by
        rw [radians_eq width]
        ring
    _ < width * (111320 * Real.cos (radians lat)) := by
        gcongr
        exact earthRadius_mul_lt

/-- As long as the box does not reach around the globe, a point of the circle lies beside it. -/
theorem exists_beyond (hg : OnGlobe lat lng) (hpos : 0 < meters)
    (hsmall : degreesOf meters lat < 180 + |lng|) : ∃ lat' lng', OnGlobe lat' lng' ∧
      haversine lat lng lat' lng' ≤ meters ∧ degreesOf meters lat < |lng' - lng| := by
  rcases le_or_gt (Real.pi / 2 - |radians lat|) (meters / earthRadius) with hpole | hpole
  · obtain ⟨lat', lng', hg', hnear, hdist⟩ :=
      exists_beside_pole hg hpos hpole (by positivity) le_rfl
    exact ⟨lat', lng', hg', hnear, hdist ▸ hsmall⟩
  · -- Next to a pole the box is the whole globe.
    have hcos : 1e-9 < Real.cos (radians lat) := by
      by_contra hle
      rw [degreesOf_of_pole hpos (not_lt.mp hle)] at hsmall
      have hlng : |lng| ≤ 180 := abs_le.mpr ⟨hg.west, hg.east⟩
      linarith
    obtain ⟨width, hradians⟩ :=
      exists_degrees (meters / earthRadius / Real.cos (radians lat))
    have hwidth : radians width * Real.cos (radians lat) = meters / earthRadius := by
      rw [hradians, div_mul_cancel₀ _ (lt_trans (by norm_num) hcos).ne']
    obtain ⟨lat', lng', hg', hnear, hdist⟩ := exists_beside_meridian hg hpos hpole hwidth
    exact ⟨lat', lng', hg', hnear, hdist ▸ degreesOf_lt hpos hcos hwidth⟩

/-! ## The box and the circle -/

theorem metersPerMile_eq : (metersPerMile : ℝ) = 1609.344 := rfl

theorem metersPerMile_pos : 0 < (metersPerMile : ℝ) := by
  rw [metersPerMile_eq]
  norm_num

/-- The box leaves out no point of the circle exactly if it reaches around the globe. A point that
is reached is always within the radius. -/
theorem box_encloses_iff (hg : OnGlobe lat lng) (hmiles : 0 < miles) :
    (∀ lat' lng', reaches lat lng (miles * metersPerMile) lat' lng' = true →
      haversine lat lng lat' lng' ≤ miles * metersPerMile) ∧
    ((∀ lat' lng', OnGlobe lat' lng' →
        (reaches lat lng (miles * metersPerMile) lat' lng' = true ↔
          haversine lat lng lat' lng' ≤ miles * metersPerMile)) ↔
      180 + |lng| ≤ degreesOf (miles * metersPerMile) lat) := by
  have hpos := mul_pos hmiles metersPerMile_pos
  refine ⟨fun lat' lng' h => (reaches_iff.mp h).2, ?_, ?_⟩
  · intro h
    by_contra hwidth
    obtain ⟨lat', lng', hg', hnear, hbeyond⟩ := exists_beyond hg hpos (not_le.mp hwidth)
    have hbox := (reaches_iff.mp ((h lat' lng' hg').mpr hnear)).1
    exact hbeyond.not_ge hbox.1
  · intro hwidth lat' lng' hg'
    have hlng : |lng' - lng| ≤ 180 + |lng| :=
      (abs_sub lng' lng).trans (by linarith [abs_le.mpr ⟨hg'.west, hg'.east⟩])
    have hlat : |lat' - lat| ≤ 180 :=
      abs_le.mpr ⟨by linarith [hg'.south, hg.north], by linarith [hg'.north, hg.south]⟩
    rw [reaches_iff]
    exact and_iff_right ⟨hlng.trans hwidth, by linarith [abs_nonneg lng]⟩

/-- Around a pole the box is the whole globe, also for a circle of one mile. -/
theorem box_encloses_pole : OnGlobe 90 0 ∧ ∀ lat' lng', OnGlobe lat' lng' →
    (reaches (90 : ℝ) 0 (1 * metersPerMile) lat' lng' = true ↔
      haversine 90 0 lat' lng' ≤ 1 * metersPerMile) := by
  have hg : OnGlobe 90 0 := by constructor <;> norm_num
  refine ⟨hg, (box_encloses_iff hg one_pos).2.mpr ?_⟩
  have hcos : Real.cos (radians 90) ≤ 1e-9 := by
    rw [radians_ninety, Real.cos_pi_div_two]
    norm_num
  rw [degreesOf_of_pole (mul_pos one_pos metersPerMile_pos) hcos]
  norm_num

/-- A degree north of a center on the equator, a point is within 69.1 miles but not in the box. -/
theorem not_box_encloses : OnGlobe 0 0 ∧ OnGlobe 1 0 ∧
    haversine (0 : ℝ) 0 1 0 ≤ 69.1 * metersPerMile ∧
    reaches (0 : ℝ) 0 (69.1 * metersPerMile) 1 0 = false := by
  have hpos : (0 : ℝ) < 69.1 * metersPerMile := mul_pos (by norm_num) metersPerMile_pos
  have hangle : radians (1 : ℝ) ≤ 69.1 * metersPerMile / earthRadius := by
    rw [radians_eq, metersPerMile_eq, earthRadius_eq]
    linarith [Real.pi_lt_d4]
  refine ⟨by constructor <;> norm_num, by constructor <;> norm_num, ?_, ?_⟩
  · refine haversine_le hpos.le fun hhalf => ?_
    have hcos : cosAngle 0 0 1 0 = Real.cos (radians 1) := by
      simp [cosAngle, radians_zero]
    rw [hcos]
    refine Real.cos_le_cos_of_nonneg_of_le_pi ?_ ?_ hangle
    · rw [radians_eq]
      positivity
    · rw [div_le_iff₀' earthRadius_pos]
      exact hhalf.le
  · rw [Bool.eq_false_iff, ne_eq, reaches_iff, degreesOf_eq hpos (by norm_num [radians_zero]),
      radians_zero, Real.cos_zero, metersPerMile_eq]
    norm_num

end Electorate.Geo
