import Straightedge.Proofs.Dependency.Solution

/-!
# Scenes in another order

Where all ids are distinct, an id stands for the same entity in whatever order the
entities are declared. Positions then correspond to one another, so a cycle in one
order is one in the other, and a solution of the scene is the solution of the
reordered scene with its entities in the new order.
-/

namespace Straightedge.Scene

variable {s s' f : Scene}

/-- The same entities, all of them under ids of their own, declared in another order. -/
structure Reordered (s s' : Scene) : Prop where
  distinct : s.ids.Nodup
  perm : s.entities.Perm s'.entities

/-- Under an id of its own an entity is found wherever it is declared. -/
theorem find?_eq_some_iff_of_nodup (distinct : s.ids.Nodup) {id : String} {e : Entity} :
    s.find? id = some e ↔ e ∈ s.entities ∧ e.id = id := by
  constructor
  · intro found
    exact ⟨List.mem_of_find?_eq_some found, id_of_find? found⟩
  · rintro ⟨member, rfl⟩
    cases found : s.find? e.id with
    | none =>
        have absent := List.find?_eq_none.mp found e member
        simp at absent
    | some e' =>
        have same := List.inj_on_of_nodup_map distinct (List.mem_of_find?_eq_some found) member
          (id_of_find? found)
        rw [same]

/-- The position in another scene of what is at a position of this one. -/
def positionIn (s s' : Scene) (i : Nat) : Nat :=
  (s.entities[i]?.bind fun e => s'.index? e.id).getD 0

namespace Reordered

theorem symm (reordered : s.Reordered s') : s'.Reordered s where
  distinct := ((reordered.perm.map Entity.id).nodup_iff).mp reordered.distinct
  perm := reordered.perm.symm

/-- Whatever keeps ids may be done to all entities. -/
theorem map (reordered : s.Reordered s') {change : Entity → Entity}
    (keeps : ∀ e, (change e).id = e.id) :
    (Scene.mk (s.entities.map change)).Reordered ⟨s'.entities.map change⟩ where
  distinct := by
    have ids : (Scene.mk (s.entities.map change)).ids = s.ids := by
      simp only [Scene.ids, List.map_map, Function.comp_def, keeps]
    rw [ids]
    exact reordered.distinct
  perm := reordered.perm.map change

theorem find?_eq (reordered : s.Reordered s') (id : String) : s.find? id = s'.find? id := by
  apply Option.ext
  intro e
  rw [find?_eq_some_iff_of_nodup reordered.distinct,
    find?_eq_some_iff_of_nodup reordered.symm.distinct, reordered.perm.mem_iff]

theorem place_eq (reordered : s.Reordered s') (id : String) : s.place id = s'.place id := by
  rw [place, place, reordered.find?_eq]

theorem shapeOf_eq (reordered : s.Reordered s') (id : String) : s.shapeOf id = s'.shapeOf id := by
  rw [shapeOf, shapeOf, reordered.find?_eq]

theorem settle_eq (reordered : s.Reordered s') : s.settle = s'.settle := by
  funext e
  apply settle_congr
  intro start stop _
  exact middle_congr fun id _ => reordered.place_eq id

theorem clearDerived (reordered : s.Reordered s') : s.clearDerived.Reordered s'.clearDerived :=
  reordered.map Entity.id_cleared

theorem index?_id (reordered : s.Reordered s') {i : Nat} {e : Entity}
    (position : s.entities[i]? = some e) :
    s'.index? e.id = some (s.positionIn s' i) ∧ s'.entities[s.positionIn s' i]? = some e := by
  have member : e ∈ s'.entities := reordered.perm.mem_iff.mp (List.mem_of_getElem? position)
  have found : s'.find? e.id = some e :=
    (find?_eq_some_iff_of_nodup reordered.symm.distinct).mpr ⟨member, rfl⟩
  obtain ⟨j, index, there⟩ := exists_index?_of_find? found
  have same : s.positionIn s' i = j := by
    rw [positionIn, position, Option.bind_some, index, Option.getD_some]
  rw [same]
  exact ⟨index, there⟩

/-- Dependencies run between the same entities. -/
theorem dependsOn (reordered : s.Reordered s') {i j : Nat}
    (depends : s.dependencyGraph.DependsOn i j) :
    s'.dependencyGraph.DependsOn (s.positionIn s' i) (s.positionIn s' j) := by
  have inside : i < s.size := size_dependencyGraph s ▸ depends.lt_size
  obtain ⟨e, position⟩ : ∃ e, s.entities[i]? = some e := ⟨_, List.getElem?_eq_getElem inside⟩
  rw [Graph.DependsOn, dependenciesOf_dependencyGraph position] at depends
  obtain ⟨id, reference, index⟩ := List.mem_filterMap.mp depends
  have target := getElem?_of_index? index
  cases found : s.find? id with
  | none => simp [index?_eq_none_iff.mpr found] at index
  | some t =>
      rw [found] at target
      obtain rfl := id_of_find? found
      rw [Graph.DependsOn, dependenciesOf_dependencyGraph (reordered.index?_id position).2]
      exact List.mem_filterMap.mpr ⟨t.id, reference, (reordered.index?_id target).1⟩

theorem acyclic (reordered : s.Reordered s') (acyclic : s'.dependencyGraph.Acyclic) :
    s.dependencyGraph.Acyclic := by
  intro i cycle
  exact acyclic _ (cycle.lift (s.positionIn s') fun _ _ => reordered.dependsOn)

/-- Whether a scene has an order to derive in does not depend on how it is declared. -/
theorem exists_dependencyOrder_iff (reordered : s.Reordered s') :
    (∃ order, s.dependencyOrder = .ok order) ↔ ∃ order, s'.dependencyOrder = .ok order := by
  rw [Scene.exists_dependencyOrder_iff, Scene.exists_dependencyOrder_iff]
  exact ⟨reordered.symm.acyclic, reordered.acyclic⟩

/-- What settles a scene settles it in any order, once it is brought into that order itself. -/
theorem exists_settles (reordered : s.Reordered s') (settles : f.Settles s) :
    ∃ f', f'.Settles s' ∧ f.Reordered f' := by
  have brought : f.Reordered ⟨s'.entities.map f.settle⟩ := by
    have both := reordered.map (id_settle f)
    rwa [← settles.entities] at both
  refine ⟨_, ⟨?_, ?_⟩, brought⟩
  · intro e member start stop isMidpoint
    have same : f.middle start stop = (Scene.mk (s'.entities.map f.settle)).middle start stop :=
      middle_congr fun id _ => brought.place_eq id
    rw [← same]
    exact settles.derivable e (reordered.perm.mem_iff.mpr member) start stop isMidpoint
  · rw [← brought.settle_eq]

/-- Derivation in dependency order leads to the same entities from every order of declaration. -/
theorem deriveOrdered (reordered : s.Reordered s') (derived : s.deriveOrdered = ⟨f, none⟩) :
    ∃ f', s'.deriveOrdered = ⟨f', none⟩ ∧ f.Reordered f' := by
  obtain ⟨order, sorted, -, settles⟩ := settles_deriveOrdered derived
  obtain ⟨order', sorted'⟩ := reordered.exists_dependencyOrder_iff.mp ⟨order, sorted⟩
  obtain ⟨perm, first⟩ := dependencyOrder_eq_ok sorted'
  obtain ⟨f', settles', brought⟩ := reordered.exists_settles settles
  refine ⟨f', ?_, brought⟩
  rw [Scene.deriveOrdered, sorted']
  exact settles'.deriveAll (sourcesFirst_of_perm perm first)

end Reordered

end Straightedge.Scene
