import Electorate.Filter.Error
import Electorate.Geo.Circle

/-!
# Viewports

* `viewport`: a box given as four numbers with commas between them, west, south, east and north.
  It lies on the globe and its corners are in order.
-/

namespace Electorate.Geo

/-- Whether the corners of a box are in order and on the globe. -/
def onGlobe (b : Box Float) : Bool :=
  -180.0 ≤ b.xmin && b.xmin ≤ b.xmax && b.xmax ≤ 180.0 &&
    -90.0 ≤ b.ymin && b.ymin ≤ b.ymax && b.ymax ≤ 90.0

/-- The box that a parameter names. -/
def viewport (s : String) : Except FilterError (Box Float) :=
  match (Text.splitOn ',' s).map fun t => (Number.readReal t).toOption with
  | [some xmin, some ymin, some xmax, some ymax] =>
    let box : Box Float := ⟨xmin, ymin, xmax, ymax⟩
    if onGlobe box then .ok box else .error (.viewportOutOfRange s)
  | _ => .error (.malformedViewport s)

end Electorate.Geo
