import Electorate.Geo.Circle
import Electorate.Proofs.DoubleProduct

/-!
# Faults of circles

The box around a circle is computed with a cosine and two quotients, and a circle is read from
three numbers. Here each of these steps is refused where it has no result.

* `CompileFault`: what goes wrong in a step.
* `Geo.degreesStepwise_eq`: the only fault of a length in degrees is that of an infinite latitude.
* `Circle.parseStepwise_eq`: reading a circle has no faults but the refusals of circles.
* `Circle.boxStepwise_eq`: the box around a circle that was read has no fault.
-/

namespace Electorate

open Number

/-- What goes wrong in a step that has no result while a filter is compiled. -/
inductive CompileFault where
  /-- A text is no integer. -/
  | notAnInteger (error : IntegerError)
  /-- A circle is refused. -/
  | badCircle (error : CircleError)
  /-- No day of this year is in the calendar. -/
  | noYear (year : Int)
  /-- A function has no value at its argument. -/
  | outsideDomain
  /-- The number of values is not the one that is expected. -/
  | wrongCount (count : Nat)
  /-- The first of no values. -/
  | noValue
  | divisionByZero
  | unknownWord (word : String)
  | emptyConjunction
  | emptyDisjunction

namespace Steps

/-- A quotient, refused for the divisor zero. -/
def divide (x y : Float) : Except CompileFault Float :=
  if y == 0.0 then .error .divisionByZero else .ok (x / y)

/-- A cosine, refused for infinities. -/
def cosine (x : Float) : Except CompileFault Float :=
  if x.isInf then .error .outsideDomain else .ok (Float.cos x)

theorem divide_eq_ok {x y : Float} (h : (y == 0.0) = false) : divide x y = .ok (x / y) := by
  rw [divide, h]
  rfl

theorem cosine_eq_ok {x : Float} (h : x.isInf = false) : cosine x = .ok (Float.cos x) := by
  rw [cosine, h]
  rfl

end Steps

open Steps

namespace Geo

open Float.Model

/-- A length in degrees, step by step. -/
def degreesStepwise (meters latitude : Float) : Except CompileFault Float :=
  if meters ≤ 0.0 then .ok 0.0
  else do
    let north ← divide meters metersPerDegree
    let shrink ← cosine (radians latitude)
    if shrink ≤ 1e-9 then return 360.0
    let east ← divide meters (metersPerDegree * shrink)
    return if north < east then east else north

theorem unpack_metersPerDegree : (metersPerDegree : Float).toModel.unpack =
    .finite .positive 7649852150251520 (-36) (by decide) :=
  (unpack_of_toBits (b := 0x40fb2d8000000000) (by decide +kernel)).trans rfl

theorem unpack_poleCosine : (1e-9 : Float).toModel.unpack =
    .finite .positive 4835703278458517 (-82) (by decide) :=
  (unpack_of_toBits (b := 0x3e112e0be826d695) (by decide +kernel)).trans rfl

theorem unpack_radian : (GlobeNumber.pi / 180.0 : Float).toModel.unpack =
    .finite .positive 5030569068109113 (-58) (by decide) :=
  (unpack_of_toBits (b := 0x3f91df46a2529d39) (by decide +kernel)).trans rfl

/-- An angle is infinite in radians exactly if it is in degrees. -/
theorem isInf_radians (x : Float) : (radians x).isInf = x.isInf := by
  show (x * (GlobeNumber.pi / 180.0)).toModel.unpack.isInf = x.toModel.unpack.isInf
  cases hx : x.toModel.unpack with
  | finite s m e hm =>
    have hle := (finite_bounds hx).2
    exact isInf_mul hx unpack_radian (by omega)
  | infinity s =>
    rw [unpack_mul, hx, unpack_radian]
    cases s <;> rfl
  | zero s =>
    rw [unpack_mul, hx, unpack_radian]
    cases s <;> rfl
  | notANumber =>
    rw [unpack_mul, hx]
    rfl

/-- A parallel that is not taken for a pole has a length. -/
theorem parallel_beq_zero {shrink : Float} (h : ¬shrink ≤ 1e-9) :
    (metersPerDegree * shrink == 0.0) = false := by
  obtain hnan | hinf | ⟨m, e, hm, hfinite, he⟩ := unpack_of_not_le unpack_poleCosine h
  · refine beq_zero_eq_false fun s hzero => ?_
    rw [unpack_mul, unpack_metersPerDegree, hnan] at hzero
    cases hzero
  · refine beq_zero_eq_false fun s hzero => ?_
    rw [unpack_mul, unpack_metersPerDegree, hinf] at hzero
    cases hzero
  · exact mul_beq_zero unpack_metersPerDegree hfinite (by omega)

/-- The one fault of a length in degrees is that of an infinite latitude. -/
theorem degreesStepwise_eq (meters latitude : Float) :
    degreesStepwise meters latitude = (degrees? meters latitude).elim (.error .outsideDomain) .ok := by
  have hdegree : (metersPerDegree == (0.0 : Float)) = false := by decide +kernel
  unfold degreesStepwise degrees?
  by_cases hmeters : meters ≤ 0.0
  · have hzero : degreesOf meters latitude = 0.0 := if_pos (decide_eq_true hmeters)
    simp only [hmeters, hzero]
    rfl
  · rw [if_neg hmeters, divide_eq_ok hdegree]
    cases hinf : latitude.isInf with
    | true =>
      simp only [cosine, isInf_radians, hinf, hmeters]
      rfl
    | false =>
      rw [cosine_eq_ok ((isInf_radians latitude).trans hinf)]
      have hlength : degreesOf meters latitude =
          if Float.cos (radians latitude) ≤ 1e-9 then 360.0
          else if meters / metersPerDegree < meters / (metersPerDegree * Float.cos (radians latitude))
            then meters / (metersPerDegree * Float.cos (radians latitude))
            else meters / metersPerDegree := by
        have hmeters' : GlobeNumber.le meters 0.0 = false := decide_eq_false hmeters
        unfold degreesOf
        rw [hmeters', if_neg Bool.false_ne_true]
        simp only [GlobeNumber.le, GlobeNumber.lt, decide_eq_true_iff]
        rfl
      simp only [Bool.and_false, Bool.false_eq_true, if_false, Option.elim_some, hlength]
      by_cases hpole : Float.cos (radians latitude) ≤ 1e-9
      · rw [if_pos hpole]
        simp only [bind, Except.bind, pure, Except.pure, hpole, if_true]
      · rw [if_neg hpole]
        simp only [bind, Except.bind, pure, Except.pure, hpole, if_false,
          divide_eq_ok (parallel_beq_zero hpole)]

end Geo

namespace Circle

variable {c : Circle} {s : String}

/-! ## Reading a circle -/

/-- The three values of a list, refused where it has another number of values. -/
def threeOf : List α → Except CompileFault (α × α × α)
  | [a, b, c] => .ok (a, b, c)
  | l => .error (.wrongCount l.length)

/-- The measure that a text writes. -/
def readMeasure (s : String) : Except CompileFault Measure :=
  match readReal s with
  | .ok x => .ok (.real x)
  | .error e => .error (.badCircle (.notANumber e))

/-- A circle is read step by step: its parts are counted, read, taken apart and checked. -/
def parseStepwise (s : String) : Except CompileFault Circle :=
  let parts := (Text.splitOn ',' s).map Text.strip
  if parts.length ≠ 3 then .error (.badCircle (.malformed s))
  else do
    let numbers ← parts.mapM readMeasure
    let (latitude, longitude, miles) ← threeOf numbers
    (check ⟨latitude, longitude, miles⟩).mapError .badCircle

/-- Reading a circle has no faults but the refusals of circles. -/
theorem parseStepwise_eq (s : String) : parseStepwise s = (ofParam s).mapError .badCircle := by
  unfold parseStepwise ofParam
  match hparts : (Text.splitOn ',' s).map Text.strip with
  | [a, b, c] =>
    -- The first of the three parts that is no number is reported by both.
    simp only [List.length_cons, List.length_nil, ne_eq, not_true, if_false, List.mapM_cons,
      List.mapM_nil, readMeasure]
    cases readReal a with
    | error e => rfl
    | ok lat =>
      cases readReal b with
      | error e => rfl
      | ok lng =>
        cases readReal c with
        | error e => rfl
        | ok miles => rfl
  | [] | [_] | [_, _] => rfl
  | _ :: _ :: _ :: _ :: rest =>
    rw [if_pos (by simp)]
    rfl

/-! ## The box around a circle -/

/-- A whole number between two that are doubles is a double. -/
theorem isInf_toFloat_of_isBetween {m : Measure} (h : m.isBetween (-90) 90 = true) :
    m.toFloat.isInf = false := by
  cases m with
  | whole n =>
    obtain ⟨hlow, hhigh⟩ := (Bool.and_eq_true _ _).mp h
    have hlow := of_decide_eq_true hlow
    have hhigh := of_decide_eq_true hhigh
    refine Bool.eq_false_iff.mpr (not_isInf_of_isFinite (isFinite_nearestFloat_of_le _ one_pos ?_))
    rw [mul_one, greatestDouble]
    refine (by omega : n.natAbs ≤ 2 ^ 53 - 1).trans ?_
    exact Nat.le_mul_of_pos_right _ (pow_pos two_pos _)
  | real x =>
    obtain ⟨hlow, hhigh⟩ := (Bool.and_eq_true _ _).mp h
    have hsouth : (Measure.whole (-90)).toFloat.toModel.unpack =
        .finite .negative 6333186975989760 (-46) (by decide) :=
      (unpack_of_toBits (b := 0xc056800000000000) (by decide +kernel)).trans rfl
    have hnorth : (Measure.whole 90).toFloat.toModel.unpack =
        .finite .positive 6333186975989760 (-46) (by decide) :=
      (unpack_of_toBits (b := 0x4056800000000000) (by decide +kernel)).trans rfl
    exact isInf_of_between hsouth hnorth (of_decide_eq_true hlow) (of_decide_eq_true hhigh)

theorem isBetween_of_check {c' : Circle} (h : check c' = .ok c) :
    c.latitude.isBetween (-90) 90 = true := by
  unfold check at h
  split at h
  · cases h
  · rename_i hlatitude
    split at h
    · cases h
    · split at h
      · cases h
      · cases h
        simpa using hlatitude

/-- A circle that is read has a latitude. -/
theorem isBetween_of_ofParam (h : ofParam s = .ok c) : c.latitude.isBetween (-90) 90 = true := by
  unfold ofParam at h
  dsimp only at h
  split at h
  · split at h
    · exact isBetween_of_check h
    · cases h
    · cases h
    · cases h
  · cases h

/-- The box around a circle, step by step. -/
def boxStepwise (c : Circle) : Except CompileFault (Geo.Box Float) := do
  let latitude := c.latitude.toFloat
  let longitude := c.longitude.toFloat
  let delta ← Geo.degreesStepwise c.radiusMeters latitude
  return ⟨longitude - delta, latitude - delta, longitude + delta, latitude + delta⟩

/-- The box around a circle that was read has no fault. -/
theorem boxStepwise_eq (h : ofParam s = .ok c) : c.boxStepwise = .ok c.boundingBox := by
  have hinf := isInf_toFloat_of_isBetween (isBetween_of_ofParam h)
  have hdegrees : Geo.degrees? c.radiusMeters c.latitude.toFloat =
      some (Geo.degreesOf c.radiusMeters c.latitude.toFloat) := by
    rw [Geo.degrees?, hinf, Bool.and_false]
    rfl
  rw [boxStepwise, Geo.degreesStepwise_eq, hdegrees]
  rfl

end Circle

end Electorate
