import Mathlib.Data.List.Find
import Mathlib.Data.Set.Function
import Straightedge.Proofs.Dependency.Cycle
import Straightedge.Proofs.Dependency.Derivation

/-!
# Derivation under other names

Names are compared with one another and nothing else. As long as different names of
a scene stay different, a renamed scene finds under a new name what the scene finds
under the old one. Its dependencies are then the same, and so is what is derived.
Names that do not occur in the scene may be confused at will.
-/

namespace Straightedge

/-- Two faults that differ by names at most: only that of a cycle has names in it, and lists them
in ascending order. -/
inductive Fault.Renamed (f : String → String) : Fault → Fault → Prop where
  | same (fault : Fault) : Renamed f fault fault
  | cycle {ids ids' : List String} (perm : ids'.Perm (ids.map f)) :
      Renamed f (.cycle ids) (.cycle ids')

/-- The same end is the same under other names. -/
theorem Fault.rel_renamed (f : String → String) (fault : Option Fault) :
    Option.Rel (Renamed f) fault fault := by
  cases fault with
  | none => exact .none
  | some fault => exact .some (.same fault)

namespace Scene

variable {s t : Scene} {f : String → String}

/-- The ids and references of a scene. -/
def names (s : Scene) : List String := s.entities.flatMap fun e => e.id :: e.references

theorem id_mem_names {e : Entity} (member : e ∈ s.entities) : e.id ∈ s.names :=
  List.mem_flatMap_of_mem member List.mem_cons_self

theorem mem_names_of_reference {e : Entity} {id : String} (member : e ∈ s.entities)
    (reference : id ∈ e.references) : id ∈ s.names :=
  List.mem_flatMap_of_mem member (List.mem_cons_of_mem _ reference)

theorem names_eq_of_outline (same : s.outline = t.outline) : s.names = t.names := by
  have listed : ∀ s : Scene,
      s.names = s.outline.flatMap fun entry => entry.1 :: entry.2.references := by
    intro s
    rw [outline, List.flatMap_map]
    rfl
  rw [listed, listed, same]

/-- Different names of a scene stay different. -/
def KeepsApart (f : String → String) (s : Scene) : Prop := Set.InjOn f {name | name ∈ s.names}

theorem KeepsApart.of_outline (apart : s.KeepsApart f) (same : s.outline = t.outline) :
    t.KeepsApart f := by
  rwa [KeepsApart, ← names_eq_of_outline same]

/-! ## What needs no name -/

@[simp] theorem size_rename (f : String → String) (s : Scene) : (s.rename f).size = s.size :=
  List.length_map _

theorem getElem?_rename (f : String → String) (s : Scene) (i : Nat) :
    (s.rename f).entities[i]? = s.entities[i]?.map (Entity.rename f) :=
  List.getElem?_map

theorem shapeAt?_rename (f : String → String) (s : Scene) (i : Nat) :
    (s.rename f).shapeAt? i = (s.shapeAt? i).map (Shape.rename f) := by
  rw [shapeAt?, shapeAt?, getElem?_rename, Option.map_map, Option.map_map]
  rfl

theorem clearDerived_rename (f : String → String) (s : Scene) :
    (s.rename f).clearDerived = s.clearDerived.rename f := by
  have cleared : ∀ e : Entity, (e.rename f).cleared = e.cleared.rename f := by
    intro e
    by_cases derived : e.kind = .midpoint
    · rw [Entity.cleared_of_midpoint derived,
        Entity.cleared_of_midpoint ((Entity.kind_rename f e).trans derived)]
      rfl
    · rw [Entity.cleared_of_ne derived,
        Entity.cleared_of_ne (fun h => derived ((Entity.kind_rename f e).symm.trans h))]
  apply congrArg Scene.mk
  change (s.entities.map (Entity.rename f)).map Entity.cleared =
    (s.entities.map Entity.cleared).map (Entity.rename f)
  rw [List.map_map, List.map_map]
  exact List.map_congr_left fun e _ => cleared e

theorem setMiddle_rename (f : String → String) (s : Scene) (i : Nat) (m : Vec) :
    (s.rename f).setMiddle i m = (s.setMiddle i m).rename f := by
  apply eq_of_getElem?
  intro j
  rw [getElem?_rename, getElem?_setMiddle, getElem?_setMiddle, getElem?_rename]
  by_cases same : i = j
  · simp only [same, if_true, Option.map_map]
    rfl
  · simp only [same, if_false]

/-! ## What is found under a name -/

/-- An entity has a name under the new names exactly if it had it under the old ones. -/
theorem KeepsApart.id_beq (apart : s.KeepsApart f) {id : String} (named : id ∈ s.names)
    {e : Entity} (member : e ∈ s.entities) : ((e.rename f).id == f id) = (e.id == id) := by
  rw [Bool.eq_iff_iff, beq_iff_eq, beq_iff_eq]
  exact apart.eq_iff (id_mem_names member) named

theorem KeepsApart.find? (apart : s.KeepsApart f) {id : String} (named : id ∈ s.names) :
    (s.rename f).find? (f id) = (s.find? id).map (Entity.rename f) := by
  rw [Scene.find?, Scene.find?, rename, List.find?_map]
  exact congrArg _ (List.find?_congr fun e member => apart.id_beq named member)

theorem KeepsApart.index? (apart : s.KeepsApart f) {id : String} (named : id ∈ s.names) :
    (s.rename f).index? (f id) = s.index? id := by
  rw [Scene.index?, Scene.index?, rename, List.findIdx?_map, List.findIdx?_eq_fst_find?_zipIdx,
    List.findIdx?_eq_fst_find?_zipIdx]
  apply congrArg
  apply List.find?_congr
  rintro ⟨e, i⟩ listed
  exact apart.id_beq named (List.fst_mem_of_mem_zipIdx listed)

theorem KeepsApart.place (apart : s.KeepsApart f) {id : String} (named : id ∈ s.names) :
    (s.rename f).place (f id) = s.place id := by
  rw [Scene.place, Scene.place, apart.find? named]
  cases s.find? id <;> rfl

theorem KeepsApart.shapeOf (apart : s.KeepsApart f) {id : String} (named : id ∈ s.names) :
    (s.rename f).shapeOf (f id) = (s.shapeOf id).map (Shape.rename f) := by
  rw [Scene.shapeOf, Scene.shapeOf, apart.find? named, Option.map_map, Option.map_map]
  rfl

/-! ## Dependencies -/

theorem KeepsApart.dependencyGraph (apart : s.KeepsApart f) :
    (s.rename f).dependencyGraph = s.dependencyGraph := by
  rw [dependencyGraph_eq, dependencyGraph_eq, rename, List.map_map]
  apply congrArg Graph.mk
  apply List.map_congr_left
  intro e member
  change (e.rename f).references.filterMap (s.rename f).index? = _
  rw [Entity.references_rename, List.filterMap_map]
  apply List.filterMap_congr
  intro id reference
  exact apart.index? (mem_names_of_reference member reference)

/-- There is the same order, or none and the same entities are reported under their new names. -/
theorem KeepsApart.dependencyOrder (apart : s.KeepsApart f) :
    (∀ order, (s.rename f).dependencyOrder = .ok order ↔ s.dependencyOrder = .ok order) ∧
    ∀ fault, s.dependencyOrder = .error fault →
      ∃ fault', (s.rename f).dependencyOrder = .error fault' ∧ fault.Renamed f fault' := by
  constructor
  · intro order
    rw [dependencyOrder_eq_ok_iff, dependencyOrder_eq_ok_iff, apart.dependencyGraph]
  · intro fault failed
    obtain ⟨stuck, rfl⟩ := dependencyOrder_eq_error_iff.mp failed
    refine ⟨_, dependencyOrder_eq_error_iff.mpr ⟨apart.dependencyGraph ▸ stuck, rfl⟩, ?_⟩
    have listed : s.dependencyGraph.stuck.filterMap (s.rename f).idAt? =
        (s.dependencyGraph.stuck.filterMap s.idAt?).map f := by
      rw [List.map_filterMap]
      apply List.filterMap_congr
      intro i _
      rw [idAt?, idAt?, getElem?_rename, Option.map_map, Option.map_map]
      rfl
    rw [apart.dependencyGraph, listed]
    exact .cycle ((List.mergeSort_perm _ _).trans ((List.mergeSort_perm _ _).symm.map f))

/-! ## What is derived -/

theorem KeepsApart.middle (apart : s.KeepsApart f) {start stop : String} (first : start ∈ s.names)
    (second : stop ∈ s.names) : (s.rename f).middle (f start) (f stop) = s.middle start stop :=
  middle_eq_of_places (apart.place first) (apart.place second)

theorem KeepsApart.deriveAt (apart : s.KeepsApart f) (i : Nat) :
    (s.rename f).deriveAt i = (s.deriveAt i).map (rename f) := by
  unfold Scene.deriveAt
  rw [shapeAt?_rename]
  cases shaped : s.shapeAt? i with
  | none => rfl
  | some shape =>
      obtain ⟨e, position, same⟩ := exists_of_shapeAt? shaped
      have member := List.mem_of_getElem? position
      cases shape with
      | midpoint start stop =>
          have references : e.references = [start, stop] := by rw [Entity.references, same]; rfl
          have middle : (s.rename f).middle (f start) (f stop) = s.middle start stop :=
            apart.middle (mem_names_of_reference member (by simp [references]))
              (mem_names_of_reference member (by simp [references]))
          simp only [Option.map_some, Shape.rename, middle]
          obtain fault | _ | m := s.middle start stop
          · rfl
          · rfl
          · exact congrArg (Outcome.mk · none) (setMiddle_rename f s i m)
      | _ => rfl

theorem KeepsApart.deriveAll (apart : s.KeepsApart f) (positions : List Nat) :
    (s.rename f).deriveAll positions = (s.deriveAll positions).map (rename f) := by
  apply Outcome.fold_map (P := KeepsApart f) _ _ apart
  · exact fun _ i apart => apart.deriveAt i
  · exact fun t i apart => apart.of_outline (outline_deriveAt t i).symm

theorem KeepsApart.deriveDeclared (apart : s.KeepsApart f) :
    (s.rename f).deriveDeclared = s.deriveDeclared.map (rename f) := by
  unfold Scene.deriveDeclared
  rw [size_rename]
  exact apart.deriveAll _

/-- In dependency order the same is derived, entity by entity, unless there is no such order under
the old names, and then neither is there under the new ones. -/
theorem KeepsApart.deriveOrdered (apart : s.KeepsApart f) :
    (s.rename f).deriveOrdered = s.deriveOrdered.map (rename f) ∨
    ∃ fault fault', s.deriveOrdered = ⟨s, some fault⟩ ∧
      (s.rename f).deriveOrdered = ⟨s.rename f, some fault'⟩ ∧ fault.Renamed f fault' := by
  obtain ⟨sorts, fails⟩ := apart.dependencyOrder
  unfold Scene.deriveOrdered
  cases sorted : s.dependencyOrder with
  | ok order =>
      rw [(sorts order).mpr sorted]
      exact .inl (apart.deriveAll order)
  | error fault =>
      obtain ⟨fault', failed', renamed⟩ := fails fault sorted
      rw [failed']
      exact .inr ⟨fault, fault', rfl, rfl, renamed⟩

theorem KeepsApart.deriveOrdered_alike (apart : s.KeepsApart f) :
    (s.rename f).deriveOrdered.state = s.deriveOrdered.state.rename f ∧
      Option.Rel (Fault.Renamed f) s.deriveOrdered.fault (s.rename f).deriveOrdered.fault := by
  obtain same | ⟨fault, fault', stops, stops', renamed⟩ := apart.deriveOrdered
  · rw [same]
    exact ⟨rfl, Fault.rel_renamed f _⟩
  · rw [stops, stops']
    exact ⟨rfl, .some renamed⟩

end Scene

end Straightedge
