import Straightedge.Geometry.Turn
import Straightedge.Geometry.Vec

/-!
# Constructions

What the shapes of a frame are made of: far points, perpendicular bisectors,
directions that halve an angle, arcs of angles and heads of arrows. A
construction without a direction gives nothing. Lengths are numbers of a style
and are converted where they are used, so an unusable length only matters when
the construction is not degenerate.
-/

namespace Straightedge.Construct

/-- The point so far from `start` in the direction of `through`. -/
def farPoint (start through : Vec) (length : Num) : Except Fault (Option Vec) :=
  match (through - start).unit? with
  | none => .ok none
  | some u => do return some (start + u.scale (← length.toFloat))

/-- The ends of the perpendicular bisector of two points, centred on their middle. -/
def perpendicularBisector (a b : Vec) (halfLength : Num) : Except Fault (Option (Vec × Vec)) :=
  match (b - a).unit? with
  | none => .ok none
  | some u => do
    let reach := u.normal.scale (← halfLength.toFloat)
    let middle := Vec.midpoint a b
    return some (middle - reach, middle + reach)

/-- The direction that halves the angle between two arms; none when an arm has no direction
or the arms are opposite. -/
def halvingDirection (vertex first second : Vec) : Option Vec :=
  match (first - vertex).unit?, (second - vertex).unit? with
  | some u, some v => (u + v).unit?
  | _, _ => none

/-- The distance from the centre of a circle to a point on it. -/
def radius (center through : Vec) : Float := (through - center).length

/-- The head of an arrow that comes from `tail`: its tip lies `offset` beyond `head`, its
base `size` behind the tip and as far to either side. -/
def arrowhead (tail head : Vec) (offset size : Num) : Except Fault (Option (Vec × Vec × Vec)) :=
  match (head - tail).unit? with
  | none => .ok none
  | some u => do
    let tip := head + u.scale (← offset.toFloat)
    let s ← size.toFloat
    let left : Vec := tip + ⟨-u.y * s - u.x * s, u.x * s - u.y * s⟩
    let right : Vec := tip + ⟨u.y * s - u.x * s, -u.x * s - u.y * s⟩
    return some (tip, left, right)

/-- The arc of an angle, its size in whole degrees, and the place of its label. -/
structure AngleArc where
  center : Vec
  start : Float
  stop : Float
  degrees : Int
  labelAt : Vec
  deriving DecidableEq, Repr

/-- An angle of radians in degrees, rounded to the nearest integer, a half going up. -/
def wholeDegrees (radians : Float) : Except Fault Int :=
  Binary64.floor (radians * (180 / Binary64.pi) + 0.5)

/-- The arc of the smaller angle at `vertex` between the directions of two points. The label
stands at the middle of the arc, `labelOffset` beyond its radius. -/
def angleArc (vertex first second : Vec) (radius labelOffset : Num) : Except Fault AngleArc := do
  let (start, stop) := Turn.radians.arc (first - vertex).angle (second - vertex).angle
  let degrees ← wholeDegrees (stop - start)
  let middle := (start + stop) / 2
  let reach ← (← radius.add labelOffset).toFloat
  let labelAt := vertex + Vec.scale ⟨middle.cos, middle.sin⟩ reach
  return { center := vertex, start, stop, degrees, labelAt }

end Straightedge.Construct
