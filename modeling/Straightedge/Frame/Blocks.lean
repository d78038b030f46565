import Straightedge.Canvas.Drawing
import Straightedge.Geometry.Construct
import Straightedge.Scene.Basic
import Straightedge.Style

/-!
# Blocks of a frame

What a single entity contributes to a frame. Lines, rays and angles are drawn
from the positions of what they refer to; points and midpoints are marked where
they are, with their id beside. An entity whose sources are missing, have no
position or are of the wrong kind contributes nothing, and neither does a
construction that is degenerate.
-/

namespace Straightedge.Block

open Drawing (call pen)

/-- Move the pen. -/
def moveTo (p : Vec) : Drawing Unit := pen (.step (.move (.real p.x) (.real p.y)))

/-- Draw a line with the pen. -/
def lineTo (p : Vec) : Drawing Unit := pen (.step (.line (.real p.x) (.real p.y)))

/-- Draw an arc with the pen, clockwise. -/
def arcAround (center : Vec) (radius start stop : Num) : Drawing Unit :=
  pen (.step (.arc (.real center.x) (.real center.y) radius start stop false))

/-- Draw a full circle with the pen. -/
def circleAround (center : Vec) (radius : Num) : Drawing Unit :=
  arcAround center radius 0 (.real Turn.radians.full)

/-- Stroke the path in a colour and width. -/
def strokeIn (color : String) (width : Num) : Drawing Unit := do
  pen (.strokeColor color)
  pen (.lineWidth width)
  call .stroke

/-- Write a label in the colour of labels. -/
def label (style : Style) (align text : String) (place : Drawing Vec) : Drawing Unit := do
  pen (.font style.font)
  pen (.fillColor (← style.color "label"))
  pen (.align align)
  pen (.baseline "middle")
  let p ← place
  call (.text text (.real p.x) (.real p.y))

/-- A straight stroke between two points. -/
def stroke (a b : Vec) (color : String) (width : Num) : Drawing Unit := do
  pen .beginPath
  moveTo a
  lineTo b
  strokeIn color width

/-- The head of an arrow from `tail` to `head`, filled in the colour that strokes have: that
of its shaft, which must have been stroked before. -/
def arrow (style : Style) (tail head : Vec) : Drawing Unit := do
  match ← Construct.arrowhead tail head style.arrowOffset style.arrowSize with
  | none => return
  | some (tip, left, right) =>
    pen .beginPath
    moveTo tip
    lineTo left
    lineTo right
    pen (.step .close)
    pen .fillAsStroke
    call .fill

/-- The positions of two ids, if both have one. -/
def ends (s : Scene) (start stop : String) : Except Fault (Option (Vec × Vec)) := do
  let a ← Entity.positionOf (s.find? start)
  let b ← Entity.positionOf (s.find? stop)
  match a, b with
  | some a, some b => return some (a, b)
  | _, _ => return none

/-- A line: a stroke between its points, with an arrow at either end. -/
def line (style : Style) (s : Scene) (start stop : String) : Drawing Unit := do
  match ← ends s start stop with
  | none => return
  | some (a, b) =>
    stroke a b (← style.color Kind.line.name) style.lineWidth
    arrow style b a
    arrow style a b

/-- A segment: a stroke between its points. -/
def segment (style : Style) (s : Scene) (start stop : String) : Drawing Unit := do
  match ← ends s start stop with
  | none => return
  | some (a, b) => stroke a b (← style.color Kind.line.name) style.lineWidth

/-- A ray: a stroke of fixed length from its start through its second point, with an arrow. -/
def ray (style : Style) (s : Scene) (start through : String) : Drawing Unit := do
  match ← ends s start through with
  | none => return
  | some (a, b) =>
    match ← Construct.farPoint a b style.rayLength with
    | none => return
    | some far =>
      stroke a far (← style.color Kind.line.name) style.lineWidth
      arrow style a far

/-- A perpendicular bisector, centred between its points. -/
def bisector (style : Style) (s : Scene) (start stop : String) : Drawing Unit := do
  match ← ends s start stop with
  | none => return
  | some (a, b) =>
    match ← Construct.perpendicularBisector a b style.bisectorHalfLength with
    | none => return
    | some (p, q) => stroke p q (← style.color Kind.bisector.name) style.lineWidth

/-- The positions of the vertex and the two other points of an angle, if all have one. -/
def arms (s : Scene) (vertex first second : String) : Except Fault (Option (Vec × Vec × Vec)) := do
  let v ← Entity.positionOf (s.find? vertex)
  let a ← Entity.positionOf (s.find? first)
  let b ← Entity.positionOf (s.find? second)
  match v, a, b with
  | some v, some a, some b => return some (v, a, b)
  | _, _, _ => return none

/-- The arms of the entity under an id, if it is an angle. -/
def armsOf (s : Scene) (id : String) : Except Fault (Option (Vec × Vec × Vec)) :=
  match (s.find? id).map Entity.shape with
  | some (.angle vertex first second) => arms s vertex first second
  | _ => return none

/-- An angle: its arc and its size in degrees. -/
def angle (style : Style) (s : Scene) (vertex first second : String) : Drawing Unit := do
  match ← arms s vertex first second with
  | none => return
  | some (v, a, b) =>
    let arc ← Construct.angleArc v a b style.angleRadius style.angleLabelOffset
    pen .beginPath
    arcAround arc.center style.angleRadius (.real arc.start) (.real arc.stop)
    strokeIn (← style.color Kind.angle.name) style.lineWidth
    label style "center" (toString arc.degrees ++ "°") (return arc.labelAt)

/-- An angle bisector: a stroke of fixed length from the vertex. -/
def angleBisector (style : Style) (s : Scene) (id : String) : Drawing Unit := do
  match ← armsOf s id with
  | none => return
  | some (v, a, b) =>
    match Construct.halvingDirection v a b with
    | none => return
    | some u =>
      let stop := v + u.scale (← style.angleBisectorLength.toFloat)
      stroke v stop (← style.color Kind.angleBisector.name) style.lineWidth

/-- A circle around its centre through its second point. -/
def circle (style : Style) (s : Scene) (center through : String) : Drawing Unit := do
  match ← ends s center through with
  | none => return
  | some (c, p) =>
    pen .beginPath
    circleAround c (.real (Construct.radius c p))
    strokeIn (← style.color Kind.circle.name) style.lineWidth

/-- A marker: a dot where the entity is, and its id to the right of it. -/
def marker (style : Style) (e : Entity) : Drawing Unit := do
  match ← e.values.position with
  | none => return
  | some p =>
    pen .beginPath
    circleAround p style.pointRadius
    pen (.fillColor (← style.color e.kind.name))
    call .fill
    strokeIn (← style.color "outline") style.outlineWidth
    label style "left" e.id (do return ⟨p.x + (← style.labelShift.toFloat), p.y⟩)

/-- What an entity contributes to a frame of its scene. -/
def of (style : Style) (s : Scene) (e : Entity) : Drawing Unit :=
  match e.shape with
  | .line start stop => line style s start stop
  | .segment start stop => segment style s start stop
  | .ray start through => ray style s start through
  | .bisector start stop => bisector style s start stop
  | .angle vertex first second => angle style s vertex first second
  | .angleBisector id => angleBisector style s id
  | .circle center through => circle style s center through
  | .point | .midpoint .. => marker style e
  | .plane => return

end Straightedge.Block
