import Straightedge.Geometry.Turn
import Straightedge.Geometry.Vec

/-!
# Sampled arcs

An arc of a circle is drawn as a chain of points. It runs clockwise from its
start to its end, or the other way on request, by a full turn at most, and is
cut into equal steps of two degrees or, if it is shorter, not at all.
-/

namespace Straightedge.Arc

/-- Two degrees. -/
def defaultStep : Num := .real (Binary64.pi / 90)

/-- How far an arc sweeps, negative when it runs anticlockwise. -/
def sweep (start stop : Num) (anticlockwise : Bool) : Except Fault Float := do
  let gap ← if anticlockwise then start.sub stop else stop.sub start
  let size ←
    if Num.le (.real Turn.radians.full) gap then pure Turn.radians.full
    else Turn.radians.reduce <$> gap.toFloat
  return if anticlockwise then -size else size

/-- The number of steps that a sweep is cut into, one at least. -/
def steps (sweep : Float) (step : Num) : Except Fault Nat := do
  let step ← step.toFloat
  if step == 0 then throw .zeroStep
  let n ← Binary64.truncate (sweep.abs / step)
  return max n.toNat 1

/-- The points of an arc, from its start to its end. -/
def points (x y radius start stop : Num) (anticlockwise : Bool) (step : Num) :
    Except Fault (List Vec) := do
  let sweep ← sweep start stop anticlockwise
  let n ← steps sweep step
  let start ← start.toFloat
  let center ← Vec.ofNums x y
  let radius ← radius.toFloat
  return (Turn.radians.samples start sweep n).map fun a =>
    ⟨center.x + radius * a.cos, center.y + radius * a.sin⟩

end Straightedge.Arc
