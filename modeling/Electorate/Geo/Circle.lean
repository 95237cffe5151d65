import Electorate.Geo.Globe
import Electorate.Number.Measure
import Electorate.Number.Real
import Electorate.Text.Split

/-!
# Circles on the globe

* `Circle`: a point and a radius in miles, with `Circle.check` and `Circle.ofParam`.
* `Circle.boundingBox`: a box in degrees around the circle.
* `Circle.contains`: whether a point lies in the circle.
-/

namespace Electorate

open Electorate.Number (RealError readReal)

/-- A point on the globe and a radius around it. -/
structure Circle where
  /-- Degrees north of the equator. -/
  latitude : Measure
  /-- Degrees east of the prime meridian. -/
  longitude : Measure
  /-- Radius in miles. -/
  radiusMiles : Measure

/-- Why a circle is refused. -/
inductive CircleError where
  /-- Not three values with commas between them. -/
  | malformed (text : String)
  /-- One of the values is not a number. -/
  | notANumber (error : RealError)
  | badLatitude (value : Measure)
  | badLongitude (value : Measure)
  | badRadius (value : Measure)

/-- The wording of the refusal. -/
def CircleError.message : CircleError → String
  | malformed text =>
    s!"Radius filter must be 'lat,lng,radiusMiles', got {Text.quoted text}"
  | notANumber error => error.message
  | badLatitude value => s!"Latitude must be between -90 and 90, got {value.text}"
  | badLongitude value => s!"Longitude must be between -180 and 180, got {value.text}"
  | badRadius value => s!"Radius must be a positive number of miles, got {value.text}"

namespace Circle

/-- Accepts a circle with a latitude, a longitude and a positive finite radius. -/
def check (c : Circle) : Except CircleError Circle :=
  if !c.latitude.isBetween (-90) 90 then .error (.badLatitude c.latitude)
  else if !c.longitude.isBetween (-180) 180 then .error (.badLongitude c.longitude)
  else if !c.radiusMiles.isPositive then .error (.badRadius c.radiusMiles)
  else .ok c

/-- Reads latitude, longitude and radius, separated by commas. -/
def ofParam (s : String) : Except CircleError Circle :=
  let number (t : String) : Except CircleError Measure :=
    match readReal t with
    | .ok x => .ok (.real x)
    | .error e => .error (.notANumber e)
  match (Text.splitOn ',' s).map Text.strip with
  | [a, b, c] =>
    match number a, number b, number c with
    | .ok lat, .ok lng, .ok miles => check ⟨lat, lng, miles⟩
    | .error e, _, _ | .ok _, .error e, _ | .ok _, .ok _, .error e => .error e
  | _ => .error (.malformed s)

/-- The radius in meters. -/
def radiusMeters (c : Circle) : Float := c.radiusMiles.toFloat * Geo.metersPerMile

/-- A box around the circle. -/
def boundingBox (c : Circle) : Geo.Box Float :=
  Geo.boxAround c.latitude.toFloat c.longitude.toFloat c.radiusMeters

/-- Whether a point lies in the box and within the radius. -/
def contains (c : Circle) (latitude longitude : Float) : Bool :=
  Geo.reaches c.latitude.toFloat c.longitude.toFloat c.radiusMeters latitude longitude

end Circle

end Electorate
