import Straightedge.Canvas.Arc
import Straightedge.Canvas.Path

/-!
# Outlines

A path becomes an outline of straight pieces: points marked as the start of a
new piece, as the end of a line, or as the return to the start of the piece.
Arcs are replaced by their sampled points. A path that starts with a line or an
arc starts its first piece there, and nothing is closed before there is a piece.
A path without points, or with a point that is not finite, has no outline.
-/

namespace Straightedge

/-- How a point of an outline is reached. -/
inductive VertexKind where
  | moveTo
  | lineTo
  | close
  deriving DecidableEq, Repr

/-- The number that stands for a kind of point. -/
def VertexKind.code : VertexKind → Nat
  | moveTo => 1
  | lineTo => 2
  | close => 79

/-- A point of an outline. -/
structure Vertex where
  kind : VertexKind
  point : Vec
  deriving DecidableEq, Repr

/-- A chain of straight pieces. -/
abbrev Outline := List Vertex

namespace Outline

/-- The points collected so far, and the start of the current piece. -/
structure Draft where
  vertices : List (VertexKind × Num × Num) := []
  start : Option (Num × Num) := none
  deriving DecidableEq, Repr

namespace Draft

/-- Start a new piece. -/
def moveTo (d : Draft) (x y : Num) : Draft :=
  ⟨d.vertices ++ [(.moveTo, x, y)], some (x, y)⟩

/-- Go to a point: the very first point starts a piece. -/
def goTo (d : Draft) (x y : Num) : Draft :=
  if d.vertices.isEmpty then d.moveTo x y
  else { d with vertices := d.vertices ++ [(.lineTo, x, y)] }

/-- Return to the start of the piece, if there is one. -/
def close (d : Draft) : Draft :=
  match d.start with
  | some (x, y) => { d with vertices := d.vertices ++ [(.close, x, y)] }
  | none => d

/-- Take in one step of a path. -/
def add (d : Draft) : PathStep Num → Except Fault Draft
  | .move x y => return d.moveTo x y
  | .line x y => return d.goTo x y
  | .arc x y radius start stop anticlockwise => do
    let points ← Arc.points x y radius start stop anticlockwise Arc.defaultStep
    return points.foldl (fun d p => d.goTo (.real p.x) (.real p.y)) d
  | .close => return d.close
  | .other => return d

end Draft

/-- The draft of a path. -/
def draft (path : Path Num) : Except Fault Draft := path.foldlM Draft.add {}

/-- The outline of a path, if it has one. -/
def ofPath? (path : Path Num) : Except Fault (Option Outline) := do
  let d ← draft path
  if d.vertices.isEmpty then return none
  let outline ← d.vertices.mapM fun (kind, x, y) => do
    return (⟨kind, ← Vec.ofNums x y⟩ : Vertex)
  if outline.all fun v => v.point.x.isFinite && v.point.y.isFinite then return some outline
  else return none

end Outline

end Straightedge
