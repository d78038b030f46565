import Straightedge.Number.Basic

/-!
# Angles up to full turns

An arc between two directions is kept as a start and an end that is never
before it. Of the two arcs that two directions bound, the one of at most half a
turn is taken. How far an arc sweeps, and where it is sampled, depends on the
difference of its ends only, taken modulo a full turn.

The rules hold for any kind of number that knows a full turn, so they are
written over a `Turn`; the frame uses the one of doubles.
-/

namespace Straightedge

/-- Angles of some kind of number, with what is needed to compare them up to full turns. -/
structure Turn (α : Type) where
  zero : α
  half : α
  full : α
  add : α → α → α
  sub : α → α → α
  neg : α → α
  lt : α → α → Bool
  le : α → α → Bool
  /-- The remainder by a full turn, which is never negative. -/
  remainder : α → α
  /-- One of so many equal parts. -/
  part : α → Nat → α
  /-- So many times an angle. -/
  times : Nat → α → α

namespace Turn

variable {α : Type} (t : Turn α)

/-- The start and the end of the smaller arc between two directions. When the way from the
first to the second is more than half a turn, the arc runs from the second to the first. -/
def arc (first second : α) : α × α :=
  let gap := t.sub second first
  let gap := if t.lt gap t.zero then t.add gap t.full else gap
  let (start, stop) :=
    if t.lt t.half gap then (second, t.add first t.full) else (first, second)
  (start, t.add start (t.remainder (t.sub stop start)))

/-- How far an arc whose ends differ by `gap` sweeps: a full turn at most. -/
def reduce (gap : α) : α := if t.le t.full gap then t.full else t.remainder gap

/-- A sweep cut into equal steps, as the offsets of its `steps + 1` marks; the last mark is
the sweep itself. -/
def marks (sweep : α) (steps : Nat) : List α :=
  let step := t.part sweep steps
  (List.range steps).map (t.times · step) ++ [sweep]

/-- The angles at which an arc from `start` that sweeps by `sweep` is sampled. -/
def samples (start sweep : α) (steps : Nat) : List α :=
  (t.marks sweep steps).map (t.add start)

@[simp] theorem length_marks (sweep : α) (steps : Nat) :
    (t.marks sweep steps).length = steps + 1 := by
  simp [marks]

@[simp] theorem length_samples (start sweep : α) (steps : Nat) :
    (t.samples start sweep steps).length = steps + 1 := by
  simp [samples]

/-- The angles of doubles, in radians. -/
def radians : Turn Float where
  zero := 0
  half := Binary64.pi
  full := 2 * Binary64.pi
  add := (· + ·)
  sub := (· - ·)
  neg := (- ·)
  lt := fun a b => a < b
  le := fun a b => a ≤ b
  remainder := fun a => Binary64.remainder a (2 * Binary64.pi)
  part := fun a n => a / Float.ofNat n
  times := fun n a => Float.ofNat n * a

end Turn

end Straightedge
