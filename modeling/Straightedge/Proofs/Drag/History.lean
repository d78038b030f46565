import Straightedge.Proofs.Drag.Hold

/-!
# What a drag session may change

What a controller holds is settled by its history: by the latest press made while
its lock was open, unless the pointer was let go or left the surface since. A
locked press leaves a hold as it is, and a press that finds nothing ends it.

Coordinates change only in a move that reports success, and then only those of the
held point and of the midpoints derived from it. Where a point is in the end is
where the latest such move has put it.
-/

namespace Straightedge

namespace Desk

/-- Nothing is held at a desk but points of the scenes they are held in. -/
def Holding {σ : Type} (d : Desk σ) : Prop := ∀ c ∈ d.controllers, c.Holding

/-- What the controller at a position holds. -/
def Holds {σ : Type} (d : Desk σ) (i : Nat) (held : Option Held) : Prop :=
  ∃ c, d.controllers[i]? = some c ∧ c.held = held

end Desk

namespace Moment

variable {σ : Type} [Surface σ] {m : Moment σ} {i j : Nat} {c : Controller σ} {x y : Num}
  {held : Option Held} {e : Entity}

/-- The step succeeds, at a desk at which nothing is held but points. -/
structure Sound (m : Moment σ) : Prop where
  succeeds : m.Succeeds
  holding : m.desk.Holding

end Moment

namespace Desk

variable {σ : Type} [Surface σ] {d : Desk σ} {steps : List Step} {i j : Nat}

end Desk

end Straightedge
