import Mathlib.Data.List.Basic
import Straightedge.Scene.Basic

/-!
# Finding entities

An id stands for the entity at the position of its first declaration. Later
declarations change nothing about that, and neither do values: what is found
where is a matter of the outline of a scene, of its ids and shapes in order.
-/

namespace Straightedge.Scene

variable {s t : Scene} {id : String} {e : Entity}

/-- The entities before a position. -/
def before (s : Scene) (i : Nat) : Scene := ⟨s.entities.take i⟩

/-- Later declarations do not change what an id stands for. -/
theorem find?_append_of_some (h : s.find? id = some e) (later : List Entity) :
    (Scene.mk (s.entities ++ later)).find? id = some e := by
  simp only [find?] at h ⊢
  rw [List.find?_append, h, Option.some_or]

theorem find?_of_before {i : Nat} (h : (s.before i).find? id = some e) : s.find? id = some e := by
  have := find?_append_of_some h (s.entities.drop i)
  rwa [before, List.take_append_drop] at this

@[simp] theorem before_size (s : Scene) : s.before s.size = s := by
  simp [before, size]

theorem before_push {i : Nat} (e : Entity) (h : i ≤ s.size) :
    (s.push e).before i = s.before i := by
  simp only [before, entities_push, Scene.mk.injEq]
  exact List.take_append_of_le_length h

theorem lt_size_of_getElem? {i : Nat} (h : s.entities[i]? = some e) : i < s.size :=
  (List.getElem?_eq_some_iff.mp h).1

theorem getElem?_push_eq_some_iff {new : Entity} {i : Nat} :
    (s.push new).entities[i]? = some e ↔ s.entities[i]? = some e ∨ i = s.size ∧ e = new := by
  rw [entities_push, List.getElem?_append]
  split
  · rename_i h
    have : i ≠ s.size := Nat.ne_of_lt h
    simp [this]
  · rename_i h
    have : s.entities[i]? = none := List.getElem?_eq_none (Nat.not_lt.mp h)
    rw [this, List.getElem?_singleton, size]
    split <;> simp [eq_comm] <;> omega

theorem index?_push (s : Scene) (e : Entity) (id : String) :
    (s.push e).index? id = (s.index? id).or (if e.id = id then some s.size else none) := by
  simp only [index?, entities_push, List.findIdx?_append, List.findIdx?_singleton, beq_iff_eq, size]
  split <;> simp

theorem index?_eq_none_iff : s.index? id = none ↔ s.find? id = none := by
  simp only [index?, find?, List.findIdx?_eq_none_iff, List.find?_eq_none, Bool.not_eq_true]

/-- What is found under an id stands at the position of its first declaration. -/
theorem getElem?_of_index? {j : Nat} (h : s.index? id = some j) : s.entities[j]? = s.find? id := by
  have search : s.find? id = (s.index? id).bind fun j => s.entities[j]? :=
    List.find?_eq_bind_findIdx?_getElem?
  rw [search, h, Option.bind_some]

theorem exists_index?_of_find? (h : s.find? id = some e) :
    ∃ j, s.index? id = some j ∧ s.entities[j]? = some e := by
  cases position : s.index? id with
  | none =>
      rw [index?_eq_none_iff.mp position] at h
      cases h
  | some j => exact ⟨j, rfl, (getElem?_of_index? position).trans h⟩

/-- An id that is declared before a position has its first declaration there. -/
theorem index?_of_before {i j : Nat} (h : (s.before i).index? id = some j) :
    j < i ∧ s.index? id = some j := by
  have inside : j < (s.entities.take i).length := (List.findIdx?_eq_some_iff_getElem.mp h).1
  have isPrefix : s.entities.take i <+: s.entities := List.take_prefix i s.entities
  constructor
  · rw [List.length_take] at inside
    omega
  · exact isPrefix.findIdx?_eq_some h

/-- The entities before a position bind an id to one and the same entity for good. -/
theorem bound_of_before {i : Nat} (h : (s.before i).find? id = some e) :
    ∃ j, j < i ∧ s.index? id = some j ∧ s.entities[j]? = some e := by
  obtain ⟨j, position, -⟩ := exists_index?_of_find? h
  obtain ⟨earlier, first⟩ := index?_of_before position
  exact ⟨j, earlier, first, (getElem?_of_index? first).trans (find?_of_before h)⟩

/-- What a scene is apart from values and places in a text: ids and shapes in order. -/
def outline (s : Scene) : List (String × Shape) := s.entities.map fun e => (e.id, e.shape)

theorem size_eq_of_outline (same : s.outline = t.outline) : s.size = t.size := by
  simpa [outline, size] using congrArg List.length same

theorem shapeAt?_eq_of_outline (same : s.outline = t.outline) (i : Nat) :
    s.shapeAt? i = t.shapeAt? i := by
  have shaped : ∀ s : Scene, s.shapeAt? i = s.outline[i]?.map Prod.snd := by
    intro s
    simp only [shapeAt?, outline, List.getElem?_map, Option.map_map]
    rfl
  rw [shaped, shaped, same]

theorem index?_eq_of_outline (same : s.outline = t.outline) (id : String) :
    s.index? id = t.index? id := by
  have search : ∀ s : Scene, s.index? id = s.outline.findIdx? (·.1 == id) := by
    intro s
    rw [outline, List.findIdx?_map]
    rfl
  rw [search, search, same]

/-- The shape of what the scene finds under an id. -/
def shapeOf (s : Scene) (id : String) : Option Shape := (s.find? id).map Entity.shape

theorem shapeOf_eq_of_outline (same : s.outline = t.outline) (id : String) :
    s.shapeOf id = t.shapeOf id := by
  have search : ∀ s : Scene, s.shapeOf id = (s.outline.find? (·.1 == id)).map Prod.snd := by
    intro s
    rw [outline, List.find?_map, Option.map_map]
    rfl
  rw [search, search, same]

end Straightedge.Scene
