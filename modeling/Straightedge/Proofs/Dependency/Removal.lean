import Mathlib.Data.List.InsertIdx
import Straightedge.Proofs.Dependency.Solution

/-!
# Scenes without one of their entities

An entity may be taken out of a scene if nothing refers to its id. The entities
behind it move up by one position, and what remains is derived as it was before:
the ids that are referred to stand for the same entities, and no dependency is new.
-/

namespace Straightedge.Scene

variable {s t f : Scene} {k : Nat} {id : String}

/-- The entity at a position has the given id, and nothing in the scene refers to this id. -/
structure Unreferenced (s : Scene) (k : Nat) (id : String) : Prop where
  position : s.entities[k]?.map Entity.id = some id
  notReference : ∀ e ∈ s.entities, id ∉ e.references

/-- Where an entity was before the one at a position has been taken out. -/
def skip (k j : Nat) : Nat := if j < k then j else j + 1

theorem skip_ne (k j : Nat) : skip k j ≠ k := by
  unfold skip
  split <;> omega

theorem skip_inj {i j : Nat} : skip k i = skip k j ↔ i = j := by
  unfold skip
  split <;> split <;> omega

theorem getElem?_eraseIdx (s : Scene) (k j : Nat) :
    (s.eraseIdx k).entities[j]? = s.entities[skip k j]? := by
  rw [eraseIdx, List.getElem?_eraseIdx, skip]
  split <;> rfl

theorem clearDerived_eraseIdx (s : Scene) (k : Nat) :
    (s.eraseIdx k).clearDerived = s.clearDerived.eraseIdx k :=
  congrArg Scene.mk (List.eraseIdx_map _ _ _).symm

theorem modifyValues_eraseIdx (s : Scene) (k j : Nat) (change : Values → Values) :
    (s.eraseIdx k).modifyValues j change = (s.modifyValues (skip k j) change).eraseIdx k := by
  apply eq_of_getElem?
  intro i
  rw [getElem?_eraseIdx, entities_modifyValues, entities_modifyValues, List.getElem?_modify,
    List.getElem?_modify, getElem?_eraseIdx]
  simp only [skip_inj]

theorem eraseIdx_setMiddle (s : Scene) (k : Nat) (m : Vec) :
    (s.setMiddle k m).eraseIdx k = s.eraseIdx k := by
  apply eq_of_getElem?
  intro i
  rw [getElem?_eraseIdx, getElem?_eraseIdx, getElem?_setMiddle, if_neg (skip_ne k i).symm]

/-- Deriving an entity that is taken out makes no difference. -/
theorem eraseIdx_deriveAt (s : Scene) (k : Nat) :
    (s.deriveAt k).state.eraseIdx k = s.eraseIdx k := by
  obtain ⟨unchanged, -⟩ | ⟨_, _, m, -, -, derived⟩ := deriveAt_cases s k
  · rw [unchanged]
  · rw [derived]
    exact eraseIdx_setMiddle s k m

/-- What is left of a scene stands around the entity that is taken out. -/
theorem exists_around {e : Entity} (position : s.entities[k]? = some e) :
    ∃ before after : List Entity, before.length = k ∧ s.entities = before ++ e :: after ∧
      (s.eraseIdx k).entities = before ++ after := by
  obtain ⟨inside, rfl⟩ := List.getElem?_eq_some_iff.mp position
  refine ⟨s.entities.take k, s.entities.drop (k + 1), ?_, ?_, List.eraseIdx_eq_take_drop_succ _ _⟩
  · rw [List.length_take]
    omega
  · rw [← List.drop_eq_getElem_cons inside, List.take_append_drop]

namespace Unreferenced

variable {id' : String}

theorem of_outline (spare : s.Unreferenced k id) (same : t.outline = s.outline) :
    t.Unreferenced k id where
  position := by
    have ids : ∀ s : Scene, s.entities[k]?.map Entity.id = s.outline[k]?.map Prod.fst := by
      intro s
      rw [outline, List.getElem?_map, Option.map_map]
      rfl
    rw [ids, same, ← ids, spare.position]
  notReference e member := by
    have entry : (e.id, e.shape) ∈ s.outline := same ▸ List.mem_map_of_mem member
    obtain ⟨e', member', alike⟩ := List.mem_map.mp entry
    have shape : e'.shape = e.shape := congrArg Prod.snd alike
    rw [Entity.references, ← shape]
    exact spare.notReference e' member'

theorem ne (spare : s.Unreferenced k id) {e : Entity} (member : e ∈ s.entities)
    (reference : id' ∈ e.references) : id' ≠ id := by
  rintro rfl
  exact spare.notReference e member reference

theorem find? (spare : s.Unreferenced k id) (other : id' ≠ id) :
    (s.eraseIdx k).find? id' = s.find? id' := by
  obtain ⟨e, position, rfl⟩ := Option.map_eq_some_iff.mp spare.position
  obtain ⟨before, after, -, entities, erased⟩ := exists_around position
  have passed : (e.id == id') = false := beq_false_of_ne other.symm
  simp only [Scene.find?, entities, erased, List.find?_append, List.find?_cons, passed]

/-- An id other than the one taken out has its first declaration where it was. -/
theorem index? (spare : s.Unreferenced k id) (other : id' ≠ id) :
    s.index? id' = ((s.eraseIdx k).index? id').map (skip k) := by
  obtain ⟨e, position, rfl⟩ := Option.map_eq_some_iff.mp spare.position
  obtain ⟨before, after, rfl, entities, erased⟩ := exists_around position
  have passed : (e.id == id') = false := beq_false_of_ne other.symm
  simp only [Scene.index?, entities, erased, List.findIdx?_append, List.findIdx?_cons, passed,
    Bool.false_eq_true, if_false]
  cases found : before.findIdx? (·.id == id') with
  | some j =>
      have inside : j < before.length := (List.findIdx?_eq_some_iff_getElem.mp found).1
      simp [skip, inside]
  | none =>
      cases after.findIdx? (·.id == id') with
      | none => rfl
      | some j =>
          have behind : ¬j + before.length < before.length := by omega
          simp only [Option.map_some, Option.none_or, skip, behind, if_false]
          congr 1
          omega

theorem place (spare : s.Unreferenced k id) (other : id' ≠ id) :
    (s.eraseIdx k).place id' = s.place id' := by
  rw [Scene.place, Scene.place, spare.find? other]

theorem shapeOf (spare : s.Unreferenced k id) (other : id' ≠ id) :
    (s.eraseIdx k).shapeOf id' = s.shapeOf id' := by
  rw [Scene.shapeOf, Scene.shapeOf, spare.find? other]

/-- The sources of a midpoint are where they were. -/
theorem middle (spare : s.Unreferenced k id) {start stop : String}
    (others : id ∉ [start, stop]) : (s.eraseIdx k).middle start stop = s.middle start stop := by
  apply middle_congr
  intro source member
  apply spare.place
  rintro rfl
  exact others member

theorem notMem_midpoint (spare : s.Unreferenced k id) {e : Entity} (member : e ∈ s.entities)
    {start stop : String} (shaped : e.shape = .midpoint start stop) : id ∉ [start, stop] := by
  have := spare.notReference e member
  rwa [Entity.references, shaped] at this

/-! ### Derivation as declared -/

theorem deriveAt (spare : s.Unreferenced k id) (j : Nat) :
    (s.eraseIdx k).deriveAt j = (s.deriveAt (skip k j)).map (·.eraseIdx k) := by
  have shape : (s.eraseIdx k).shapeAt? j = s.shapeAt? (skip k j) := by
    rw [shapeAt?, getElem?_eraseIdx, shapeAt?]
  unfold Scene.deriveAt
  rw [shape]
  split
  · rename_i start stop isMidpoint
    obtain ⟨e, position, shaped⟩ := exists_of_shapeAt? isMidpoint
    rw [spare.middle (spare.notMem_midpoint (List.mem_of_getElem? position) shaped)]
    split
    · rw [modifyValues_eraseIdx]
      rfl
    · rfl
    · rfl
  · rfl

theorem deriveAll (spare : s.Unreferenced k id) (positions : List Nat) :
    (s.eraseIdx k).deriveAll positions =
      (s.deriveAll (positions.map (skip k))).map (·.eraseIdx k) := by
  induction positions generalizing s with
  | nil => rfl
  | cons j positions ih =>
      have kept := spare.of_outline (outline_deriveAt s (skip k j))
      rw [Scene.deriveAll, Outcome.fold_cons, spare.deriveAt, List.map_cons, Scene.deriveAll,
        Outcome.fold_cons]
      generalize s.deriveAt (skip k j) = made at kept
      obtain ⟨t, _ | fault⟩ := made
      · exact ih kept
      · rfl

end Unreferenced

/-- All positions are those in front of the one taken out, this one, and those behind it. -/
theorem range_skip (k m : Nat) :
    List.range (k + (m + 1)) =
      (List.range k).map (skip k) ++ k :: ((List.range m).map (k + ·)).map (skip k) := by
  have front : (List.range k).map (skip k) = List.range k := by
    refine (List.map_congr_left ?_).trans (List.map_id' _)
    intro j member
    exact if_pos (List.mem_range.mp member)
  have behind : ((List.range m).map (k + ·)).map (skip k) = (List.range m).map (k + 1 + ·) := by
    rw [List.map_map]
    apply List.map_congr_left
    intro j _
    rw [Function.comp, skip, if_neg (by omega)]
    omega
  rw [front, behind, ← Nat.add_assoc, Nat.add_right_comm, List.range_add, List.range_succ,
    List.append_assoc, List.singleton_append]

namespace Unreferenced

/-- Derivation in declaration order passes the same midpoints, but for the one taken out. -/
theorem deriveDeclared (spare : s.Unreferenced k id) (derived : s.deriveDeclared = ⟨f, none⟩) :
    (s.eraseIdx k).deriveDeclared = ⟨f.eraseIdx k, none⟩ := by
  obtain ⟨e, position, -⟩ := Option.map_eq_some_iff.mp spare.position
  obtain ⟨m, size⟩ : ∃ m, s.size = k + (m + 1) :=
    Nat.exists_eq_add_of_lt (lt_size_of_getElem? position)
  have rest : (s.eraseIdx k).size = k + m := by
    have inside := lt_size_of_getElem? position
    have erased : (s.eraseIdx k).size = s.size - 1 := List.length_eraseIdx_of_lt inside
    omega
  rw [Scene.deriveDeclared, size, range_skip] at derived
  obtain ⟨t, u, before, here, after⟩ := deriveAll_split derived
  have outline := outline_deriveAll s ((List.range k).map (skip k))
  have outline' := outline_deriveAt t k
  have same := eraseIdx_deriveAt t k
  rw [before] at outline
  rw [here] at outline' same
  have spare' : u.Unreferenced k id := spare.of_outline (outline'.trans outline)
  have front := spare.deriveAll (List.range k)
  have behind := spare'.deriveAll ((List.range m).map (k + ·))
  rw [before] at front
  rw [after] at behind
  rw [Scene.deriveDeclared, rest, List.range_add, Scene.deriveAll, Outcome.fold_append,
    ← Scene.deriveAll, front]
  exact (congrArg (Scene.deriveAll · _) same).symm.trans behind

/-! ### Derivation in dependency order -/

/-- No dependency is new. -/
theorem dependsOn (spare : s.Unreferenced k id) {i j : Nat}
    (depends : (s.eraseIdx k).dependencyGraph.DependsOn i j) :
    s.dependencyGraph.DependsOn (skip k i) (skip k j) := by
  have inside : i < (s.eraseIdx k).size := size_dependencyGraph (s.eraseIdx k) ▸ depends.lt_size
  obtain ⟨e, position⟩ : ∃ e, (s.eraseIdx k).entities[i]? = some e :=
    ⟨_, List.getElem?_eq_getElem inside⟩
  rw [Graph.DependsOn, dependenciesOf_dependencyGraph position] at depends
  obtain ⟨target, reference, index⟩ := List.mem_filterMap.mp depends
  rw [getElem?_eraseIdx] at position
  rw [Graph.DependsOn, dependenciesOf_dependencyGraph position]
  have other : target ≠ id := spare.ne (List.mem_of_getElem? position) reference
  exact List.mem_filterMap.mpr ⟨target, reference, by rw [spare.index? other, index]; rfl⟩

theorem acyclic (spare : s.Unreferenced k id) (acyclic : s.dependencyGraph.Acyclic) :
    (s.eraseIdx k).dependencyGraph.Acyclic := by
  intro i cycle
  exact acyclic _ (cycle.lift (skip k) fun _ _ => spare.dependsOn)

/-- What settles a scene settles it without the entity as well, once it is without it itself. -/
theorem settles (spare : s.Unreferenced k id) (settles : f.Settles s) :
    (f.eraseIdx k).Settles (s.eraseIdx k) := by
  have spare' : f.Unreferenced k id := spare.of_outline settles.outline
  have same : ∀ e ∈ (s.eraseIdx k).entities, ∀ start stop, e.shape = .midpoint start stop →
      (f.eraseIdx k).middle start stop = f.middle start stop := by
    intro e member start stop shaped
    exact spare'.middle (spare.notMem_midpoint (List.mem_of_mem_eraseIdx member) shaped)
  refine ⟨?_, ?_⟩
  · intro e member start stop shaped
    rw [same e member start stop shaped]
    exact settles.derivable e (List.mem_of_mem_eraseIdx member) start stop shaped
  · have erased : (f.eraseIdx k).entities = (s.eraseIdx k).entities.map f.settle := by
      rw [eraseIdx, settles.entities, List.eraseIdx_map, eraseIdx]
    rw [erased]
    apply List.map_congr_left
    intro e member
    exact (settle_congr (same e member)).symm

theorem deriveOrdered (spare : s.Unreferenced k id) (derived : s.deriveOrdered = ⟨f, none⟩) :
    (s.eraseIdx k).deriveOrdered = ⟨f.eraseIdx k, none⟩ := by
  obtain ⟨order, sorted, -, settles⟩ := settles_deriveOrdered derived
  obtain ⟨order', sorted'⟩ := exists_dependencyOrder_iff.mpr
    (spare.acyclic (exists_dependencyOrder_iff.mp ⟨order, sorted⟩))
  obtain ⟨perm, first⟩ := dependencyOrder_eq_ok sorted'
  rw [Scene.deriveOrdered, sorted']
  exact (spare.settles settles).deriveAll (sourcesFirst_of_perm perm first)

end Unreferenced

end Straightedge.Scene
