import Straightedge.Entity.Basic

/-!
# Vectors and positions

Points of the plane as pairs of doubles. A direction shorter than the tolerance
is no direction, so a construction over it is degenerate. The position of an
entity is read from its coordinates and is not there as long as one of them is
unset.
-/

namespace Straightedge

/-- A point or a displacement of the plane. -/
structure Vec where
  x : Float
  y : Float
  deriving DecidableEq, Repr

namespace Vec

instance : Add Vec := ⟨fun a b => ⟨a.x + b.x, a.y + b.y⟩⟩

instance : Sub Vec := ⟨fun a b => ⟨a.x - b.x, a.y - b.y⟩⟩

/-- A vector stretched by a factor. -/
def scale (a : Vec) (k : Float) : Vec := ⟨a.x * k, a.y * k⟩

/-- A vector turned by a quarter. -/
def normal (a : Vec) : Vec := ⟨-a.y, a.x⟩

/-- The length of a vector. -/
def length (a : Vec) : Float := Binary64.hypot a.x a.y

/-- The direction of a vector. -/
def angle (a : Vec) : Float := Binary64.direction a.y a.x

/-- Up to this length a vector has no direction. -/
def tolerance : Float := 1e-12

/-- The vector of length one in the same direction, if there is a direction. -/
def unit? (a : Vec) : Option Vec :=
  let l := a.length
  if l ≤ tolerance then none else some ⟨a.x / l, a.y / l⟩

/-- The middle between two points. -/
def midpoint (a b : Vec) : Vec := ⟨(a.x + b.x) / 2, (a.y + b.y) / 2⟩

/-- The doubles nearest to two coordinates. -/
def ofNums (x y : Num) : Except Fault Vec := do return ⟨← x.toFloat, ← y.toFloat⟩

end Vec

namespace Values

/-- The coordinates, if both are set. -/
def point? (v : Values) : Option (Num × Num) :=
  match v.number? "x", v.number? "y" with
  | some x, some y => some (x, y)
  | _, _ => none

/-- The position that the coordinates give, if both are set. -/
def position (v : Values) : Except Fault (Option Vec) :=
  match v.point? with
  | some (x, y) => some <$> Vec.ofNums x y
  | none => .ok none

end Values

/-- The position of an entity, if there is an entity and it has one. -/
def Entity.positionOf : Option Entity → Except Fault (Option Vec)
  | some e => e.values.position
  | none => .ok none

end Straightedge
