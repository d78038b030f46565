/-!
# Dependency graphs and schedules

The vertices of a graph are numbered, and each lists the vertices it depends on.
A schedule places vertices one at a time: a vertex is ready once everything it
depends on has been placed, and of the ready ones the least is placed next. What
is left when no vertex is ready depends on a cycle.
-/

namespace Straightedge

/-- For every vertex the vertices it depends on, repetitions included. -/
structure Graph where
  dependencies : List (List Nat)
  deriving DecidableEq, Repr

namespace Graph

/-- The number of vertices. -/
def size (g : Graph) : Nat := g.dependencies.length

/-- What a vertex depends on. -/
def dependenciesOf (g : Graph) (i : Nat) : List Nat := g.dependencies.getD i []

/-- For every vertex the number of distinct vertices it depends on. -/
def inDegrees (g : Graph) : List Nat := g.dependencies.map (·.eraseDups.length)

/-- The vertices that depend on a vertex, in ascending order and each once. -/
def dependents (g : Graph) (i : Nat) : List Nat :=
  (List.range g.size).filter fun j => (g.dependenciesOf j).contains i

/-- A list in ascending order with one more number. -/
def insertAscending (i : Nat) : List Nat → List Nat
  | [] => [i]
  | j :: rest => if i ≤ j then i :: j :: rest else j :: insertAscending i rest

/-- Vertices placed so far, those that could be placed next in ascending order, and for every
vertex the number of its dependencies that are still to be placed. -/
structure Schedule where
  waiting : List Nat
  ready : List Nat
  placed : List Nat
  deriving DecidableEq, Repr

namespace Schedule

/-- Nothing placed yet. -/
def start (g : Graph) : Schedule where
  waiting := g.inDegrees
  ready := (List.range g.size).filter fun i => g.inDegrees.getD i 0 == 0
  placed := []

/-- One dependency of a vertex has been placed; with the last one it becomes ready. -/
def release (s : Schedule) (j : Nat) : Schedule :=
  let left := s.waiting.getD j 0 - 1
  { s with
    waiting := s.waiting.set j left
    ready := if left = 0 then insertAscending j s.ready else s.ready }

/-- Place the least ready vertex, if there is one. -/
def place (g : Graph) (s : Schedule) : Schedule :=
  match s.ready with
  | [] => s
  | i :: rest =>
    (g.dependents i).foldl release { s with ready := rest, placed := s.placed ++ [i] }

/-- Place a number of vertices. -/
def run (g : Graph) : Nat → Schedule → Schedule
  | 0, s => s
  | n + 1, s => run g n (s.place g)

end Schedule

/-- The schedule of a graph, carried on until no vertex is ready. -/
def schedule (g : Graph) : Schedule := (Schedule.start g).run g g.size

/-- The vertices that are never placed. -/
def stuck (g : Graph) : List Nat :=
  (List.range g.size).filter fun i => g.schedule.waiting.getD i 0 != 0

/-- All vertices in an order that puts dependencies first, always taking the least vertex
that may come next; none when some vertex is never placed. -/
def order? (g : Graph) : Option (List Nat) :=
  let placed := g.schedule.placed
  if placed.length = g.size then some placed else none

@[simp] theorem length_inDegrees (g : Graph) : g.inDegrees.length = g.size := by
  simp [inDegrees, size]

/-- A vertex depends on another exactly when it is among the dependents of the other. -/
theorem mem_dependents_iff {g : Graph} {i j : Nat} :
    j ∈ g.dependents i ↔ j < g.size ∧ i ∈ g.dependenciesOf j := by
  simp [dependents]

end Graph

end Straightedge
