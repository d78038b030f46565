import Straightedge.Dependency.Graph
import Straightedge.Scene.Basic

/-!
# References between entities

Entities depend on those they refer to, each reference going to the first
declaration of its id. A reference to an id that nothing declares is left out. A
directory lists the first declaration of every id, so that a graph is built
without searching the scene again for every reference.
-/

namespace Straightedge.Scene

/-- The position of the first declaration of each id. -/
def directory (s : Scene) : List (String × Nat) :=
  s.entities.zipIdx.foldl
    (fun d (e, i) => if (List.lookup e.id d).isSome then d else d ++ [(e.id, i)]) []

/-- The dependencies between the positions of a scene. -/
def dependencyGraph (s : Scene) : Graph :=
  let d := s.directory
  ⟨s.entities.map fun e => e.references.filterMap (List.lookup · d)⟩

/-- The positions of a scene in an order that puts dependencies first and otherwise keeps
declaration order. References that run in a circle leave no such order; the ids of all
entities that can never be placed are then reported in ascending order. -/
def dependencyOrder (s : Scene) : Except Fault (List Nat) :=
  let g := s.dependencyGraph
  match g.order? with
  | some order => .ok order
  | none =>
    let ids := g.stuck.filterMap fun i => s.entities[i]?.map (·.id)
    .error (.cycle (ids.mergeSort fun a b => decide (a ≤ b)))

@[simp] theorem size_dependencyGraph (s : Scene) : s.dependencyGraph.size = s.size := by
  simp [dependencyGraph, Graph.size, size]

end Straightedge.Scene
