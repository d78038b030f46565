import Straightedge.Dependency.References
import Straightedge.Geometry.Vec

/-!
# Derived coordinates

The coordinates of a midpoint are derived from the positions of its two sources;
a midpoint of which a source has no position yet is left as it is. Derivation
goes through a scene in declaration order, or in dependency order so that
midpoints of midpoints come out as well. It may be cut short by a coordinate
that no double can hold; what was derived before stays.
-/

namespace Straightedge.Scene

/-- The middle between the positions of two ids, if both have one. -/
def middle (s : Scene) (start stop : String) : Except Fault (Option Vec) := do
  let a ← Entity.positionOf (s.find? start)
  let b ← Entity.positionOf (s.find? stop)
  match a, b with
  | some a, some b => return some (Vec.midpoint a b)
  | _, _ => return none

/-- Derive the coordinates of the entity at a position, if it is a midpoint. -/
def deriveAt (s : Scene) (i : Nat) : Outcome Scene :=
  match s.shapeAt? i with
  | some (.midpoint start stop) =>
    match s.middle start stop with
    | .ok (some m) => ⟨s.modifyValues i fun v => v.setPoint (.real m.x) (.real m.y), none⟩
    | .ok none => ⟨s, none⟩
    | .error f => ⟨s, some f⟩
  | _ => ⟨s, none⟩

/-- Derive midpoints at the given positions, one after the other. -/
def deriveAll (s : Scene) (positions : List Nat) : Outcome Scene :=
  Outcome.fold deriveAt s positions

/-- Derive midpoints in declaration order. -/
def deriveDeclared (s : Scene) : Outcome Scene := s.deriveAll (List.range s.size)

/-- Derive midpoints in dependency order. -/
def deriveOrdered (s : Scene) : Outcome Scene :=
  match s.dependencyOrder with
  | .ok order => s.deriveAll order
  | .error f => ⟨s, some f⟩

/-- Forget what was derived. -/
def clearDerived (s : Scene) : Scene :=
  ⟨s.entities.map fun e => if e.kind = .midpoint then { e with values := .empty } else e⟩

@[simp] theorem size_clearDerived (s : Scene) : s.clearDerived.size = s.size := by
  simp [clearDerived, size]

end Straightedge.Scene
