/-!
# Lengths on the globe

Lengths are computed in any kind of numbers that has the functions they need; the program computes
them in doubles.

* `GlobeNumber`: such numbers, with doubles as an instance.
* `degreesOf`: a length in degrees. A degree of latitude is taken as 111 320 m, a degree of
  longitude as that times the cosine of the latitude; at the poles a length is 360 degrees.
* `haversine`: the great-circle distance of two points.
* `boxAround`: a box around a circle.
* `reaches`: whether a point lies in a circle: first in the box, then within the distance.
* `degrees?`, `distance?`: the two lengths in doubles, refused where sine, cosine or root have no
  value.
-/

namespace Electorate.Geo

/-- Numbers with the functions that lengths on the globe need. -/
class GlobeNumber (α : Type) extends Add α, Sub α, Mul α, Div α, OfScientific α where
  /-- The ratio of the circumference of a circle to its diameter. -/
  pi : α
  sin : α → α
  cos : α → α
  asin : α → α
  sqrt : α → α
  /-- Strictly smaller. -/
  lt : α → α → Bool
  /-- Smaller or equal. -/
  le : α → α → Bool

instance : GlobeNumber Float where
  pi := 3.141592653589793
  sin := Float.sin
  cos := Float.cos
  asin := Float.asin
  sqrt := Float.sqrt
  lt x y := x < y
  le x y := x ≤ y

/-- A rectangle of longitudes and latitudes, in degrees. -/
structure Box (α : Type) where
  xmin : α
  ymin : α
  xmax : α
  ymax : α

open GlobeNumber (pi sin cos asin sqrt lt le)

variable {α : Type} [GlobeNumber α]

/-- Whether a point lies in a box, its sides included. -/
def Box.holds (b : Box α) (latitude longitude : α) : Bool :=
  le b.xmin longitude && le longitude b.xmax && le b.ymin latitude && le latitude b.ymax

/-- Meters in a mile. -/
def metersPerMile : α := 1609.344

/-- Mean radius of the earth in meters. -/
def earthRadius : α := 6371008.8

/-- Meters in a degree of latitude. -/
def metersPerDegree : α := 111320.0

/-- Degrees as radians. -/
def radians (degrees : α) : α := degrees * (pi / 180.0)

/-- A length in degrees: the larger of its angles along the meridian and along the parallel of
`latitude`. -/
def degreesOf (meters latitude : α) : α :=
  if le meters 0.0 then 0.0
  else
    let north := meters / metersPerDegree
    let shrink := cos (radians latitude)
    if le shrink 1e-9 then 360.0
    else
      let east := meters / (metersPerDegree * shrink)
      if lt north east then east else north

/-- The great-circle distance of two points in meters. -/
def haversine (lat₁ lng₁ lat₂ lng₂ : α) : α :=
  let half (x : α) : α := sin (x / 2.0)
  let north := half (radians (lat₂ - lat₁))
  let east := half (radians (lng₂ - lng₁))
  let a := north * north + cos (radians lat₁) * cos (radians lat₂) * (east * east)
  2.0 * earthRadius * asin (sqrt a)

/-- A box around the circle of a center and a radius in meters. -/
def boxAround (latitude longitude meters : α) : Box α :=
  let delta := degreesOf meters latitude
  ⟨longitude - delta, latitude - delta, longitude + delta, latitude + delta⟩

/-- Whether the circle of a center and a radius in meters reaches a point: the point lies in the
box around the circle and is near enough. -/
def reaches (latitude longitude meters : α) (pointLatitude pointLongitude : α) : Bool :=
  (boxAround latitude longitude meters).holds pointLatitude pointLongitude &&
    le (haversine latitude longitude pointLatitude pointLongitude) meters

/-- The wording for a function that has no value at its arguments. -/
def outsideDomainMessage : String := "math domain error"

/-- A length in degrees, refused where the latitude is infinite. -/
def degrees? (meters latitude : Float) : Option Float :=
  if !(meters ≤ 0.0) && latitude.isInf then none else some (degreesOf meters latitude)

/-- The great-circle distance of two points, refused where it is no number although all
coordinates are numbers. -/
def distance? (lat₁ lng₁ lat₂ lng₂ : Float) : Option Float :=
  let meters := haversine lat₁ lng₁ lat₂ lng₂
  if meters.isNaN && [lat₁, lng₁, lat₂, lng₂].all (!·.isNaN) then none else some meters

end Electorate.Geo
