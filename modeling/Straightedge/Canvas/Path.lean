import Straightedge.Number.Basic

/-!
# Paths

A path is a list of steps of a pen: moves, lines, arcs and closings. Its numbers
are doubles once a surface has taken them in; before, they may be exact.
-/

namespace Straightedge

/-- A step of a path over some kind of number. -/
inductive PathStep (α : Type) where
  | move (x y : α)
  | line (x y : α)
  | arc (x y radius start stop : α) (anticlockwise : Bool)
  | close
  /-- A step of another kind, which leaves no trace. -/
  | other
  deriving DecidableEq, Repr

/-- A path over some kind of number. -/
abbrev Path (α : Type) := List (PathStep α)

namespace PathStep

variable {α β : Type}

/-- Every number of a step put through a function. -/
def map (f : α → β) : PathStep α → PathStep β
  | move x y => move (f x) (f y)
  | line x y => line (f x) (f y)
  | arc x y radius start stop anticlockwise =>
    arc (f x) (f y) (f radius) (f start) (f stop) anticlockwise
  | close => close
  | other => other

/-- The step with the doubles nearest to its numbers. -/
def toFloats : PathStep Num → Except Fault (PathStep Float)
  | move x y => do return move (← x.toFloat) (← y.toFloat)
  | line x y => do return line (← x.toFloat) (← y.toFloat)
  | arc x y radius start stop anticlockwise => do
    return arc (← x.toFloat) (← y.toFloat) (← radius.toFloat) (← start.toFloat) (← stop.toFloat)
      anticlockwise
  | close => return close
  | other => return other

end PathStep

/-- A path of doubles as one of numbers. -/
def Path.toNums (path : Path Float) : Path Num := path.map (PathStep.map Num.real)

end Straightedge
