import Mathlib.Data.List.Basic
import Mathlib.Data.List.Induction
import Straightedge.Dependency.References
import Straightedge.Proofs.Dependency.Schedule
import Straightedge.Proofs.Scene.Lookup

/-!
# References and first declarations

The directory of a scene and a search through its entities agree on what an id
stands for: the first declaration. So a reference of an entity is an edge of the
dependency graph exactly when the scene finds its id, and the edge leads to the
position of the entity that is found.
-/

namespace Straightedge.Scene

variable {s t : Scene}

theorem directory_push (s : Scene) (e : Entity) :
    (s.push e).directory =
      if (List.lookup e.id s.directory).isSome then s.directory
      else s.directory ++ [(e.id, s.size)] := by
  rw [directory, entities_push, List.zipIdx_append, List.zipIdx_singleton, List.foldl_append,
    List.foldl_cons, List.foldl_nil, Nat.zero_add]
  rfl

/-- The directory leads to the first declaration of an id. -/
theorem lookup_directory (s : Scene) (id : String) :
    List.lookup id s.directory = s.index? id := by
  obtain ⟨es⟩ := s
  induction es using List.reverseRecOn generalizing id with
  | nil => rfl
  | append_singleton es e ih =>
      change List.lookup id ((Scene.mk es).push e).directory = ((Scene.mk es).push e).index? id
      rw [directory_push, index?_push, ← ih]
      by_cases same : e.id = id
      · subst same
        cases listed : List.lookup e.id (Scene.mk es).directory with
        | none => simp [List.lookup_append, listed]
        | some j => simp [listed]
      · have other : (id == e.id) = false := by simpa using Ne.symm same
        cases listed : List.lookup e.id (Scene.mk es).directory with
        | none => simp [List.lookup_append, List.lookup_cons, same, other]
        | some j => simp [same]

/-- The references of an entity that the scene finds are the edges of the graph. -/
theorem dependencyGraph_eq (s : Scene) :
    s.dependencyGraph = ⟨s.entities.map fun e => e.references.filterMap s.index?⟩ := by
  have lookup : (fun id => List.lookup id s.directory) = s.index? := funext (lookup_directory s)
  simp only [dependencyGraph, lookup]

theorem dependenciesOf_dependencyGraph {i : Nat} {e : Entity} (h : s.entities[i]? = some e) :
    s.dependencyGraph.dependenciesOf i = e.references.filterMap s.index? := by
  simp only [dependencyGraph_eq, Graph.dependenciesOf, List.getD_eq_getElem?_getD,
    List.getElem?_map, h, Option.map_some, Option.getD_some]

/-- Nothing refers to the second declaration of an id, and a reference made twice counts once. -/
example :
    let s : Scene := ⟨[{ id := "A", shape := .point }, { id := "A", shape := .plane },
      { id := "M", shape := .midpoint "A" "A" }, { id := "s", shape := .segment "Z" "M" }]⟩
    s.dependencyGraph.dependencies = [[], [], [0, 0], [2]] ∧
      s.dependencyGraph.inDegrees = [0, 0, 1, 1] ∧ s.dependencyGraph.dependents 0 = [2] := by
  decide +kernel

/-- An order of a scene lists every position once, after those that it depends on. -/
theorem dependencyOrder_eq_ok {order : List Nat} (h : s.dependencyOrder = .ok order) :
    order.Perm (List.range s.size) ∧ s.dependencyGraph.DependenciesFirst order := by
  simp only [dependencyOrder] at h
  split at h
  · rename_i sorted
    obtain rfl := Except.ok.inj h
    rw [← size_dependencyGraph]
    exact Graph.perm_and_first_of_order? sorted
  · cases h

/-- Dependencies are a matter of the outline alone. -/
theorem dependencyGraph_eq_of_outline (same : s.outline = t.outline) :
    s.dependencyGraph = t.dependencyGraph := by
  have graph : ∀ s : Scene, s.dependencyGraph =
      ⟨s.outline.map fun entry => entry.2.references.filterMap s.index?⟩ := by
    intro s
    rw [dependencyGraph_eq, outline, List.map_map]
    rfl
  rw [graph, graph, same, funext (index?_eq_of_outline same)]

theorem dependencyOrder_eq_of_outline (same : s.outline = t.outline) :
    s.dependencyOrder = t.dependencyOrder := by
  have idAt : ∀ (s : Scene) (i : Nat),
      s.entities[i]?.map Entity.id = s.outline[i]?.map Prod.fst := by
    intro s i
    rw [outline, List.getElem?_map, Option.map_map]
    rfl
  have ids : ∀ i : Nat, s.entities[i]?.map Entity.id = t.entities[i]?.map Entity.id := by
    intro i
    rw [idAt, idAt, same]
  simp only [dependencyOrder, dependencyGraph_eq_of_outline same, ids]

end Straightedge.Scene
