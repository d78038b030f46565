import Straightedge.Proofs.Frame.Render
import Straightedge.Proofs.Frame.Sources

/-!
# What a frame sees of a scene

Of an entity a frame takes its id, its shape and its coordinates; the values of a
midpoint are all there is to see of it, since they are derived on the way.
Derivation and drawing commute with this view, so scenes that look the same give
the same drawings, and look the same afterwards.
-/

namespace Straightedge

namespace Values

/-- The values with nothing but the two coordinates, and with neither unless both are set. -/
def coordinates (v : Values) : Values :=
  match v.point? with
  | some (x, y) => .ofPoint x y
  | none => .empty

@[simp] theorem position_coordinates (v : Values) : v.coordinates.position = v.position := by
  unfold coordinates position
  cases v.point? with
  | none => rfl
  | some xy => rfl

theorem coordinates_congr {v w : Values} (x : v.number? "x" = w.number? "x")
    (y : v.number? "y" = w.number? "y") : v.coordinates = w.coordinates := by
  simp only [coordinates, point?, x, y]

end Values

namespace Entity

/-- What a frame sees of an entity. -/
def seen (e : Entity) : Entity where
  id := e.id
  shape := e.shape
  values := if e.kind = .midpoint then e.values else e.values.coordinates

@[simp] theorem position_seen (e : Entity) : e.seen.values.position = e.values.position := by
  simp only [seen]
  split
  · rfl
  · exact e.values.position_coordinates

theorem values_seen {e : Entity} (derived : e.kind = .midpoint) : e.seen.values = e.values :=
  if_pos derived

theorem eq_of_seen_eq {e e' : Entity} (look : e.seen = e'.seen) (alike : e.cleared = e'.cleared) :
    e = e' := by
  by_cases derived : e'.kind = .midpoint
  · have derived' : e.kind = .midpoint := (kind_of_cleared_eq alike).trans derived
    have values : e.values = e'.values := by rw [← values_seen derived', look, values_seen derived]
    calc
      e = { e with values := e'.values } := by rw [← values]
      _ = e' := withValues_eq_of_cleared_eq alike e'.values
  · exact eq_of_cleared_eq alike derived

end Entity

namespace Scene

variable {s t : Scene}

/-- What a frame sees of a scene. -/
def seen (s : Scene) : Scene := ⟨s.entities.map Entity.seen⟩

theorem outline_seen (s : Scene) : s.seen.outline = s.outline := by
  simp only [outline, seen, List.map_map]
  rfl

theorem place_seen (s : Scene) (id : String) : s.seen.place id = s.place id := by
  have found : s.seen.find? id = (s.find? id).map Entity.seen := by
    rw [find?, seen, List.find?_map]
    rfl
  rw [place, place, found]
  cases s.find? id with
  | none => rfl
  | some e => exact e.position_seen

theorem getElem?_seen (s : Scene) (i : Nat) :
    s.seen.entities[i]? = s.entities[i]?.map Entity.seen :=
  List.getElem?_map

theorem seen_setMiddle {i : Nat} {start stop : String}
    (isMidpoint : s.shapeAt? i = some (.midpoint start stop)) (m : Vec) :
    (s.setMiddle i m).seen = s.seen.setMiddle i m := by
  obtain ⟨e, position, shape⟩ := exists_of_shapeAt? isMidpoint
  apply eq_of_getElem?
  intro j
  rw [getElem?_seen, getElem?_setMiddle, getElem?_setMiddle, getElem?_seen]
  by_cases same : i = j
  · subst same
    simp [position, Entity.seen, Entity.kind, shape, Shape.kind]
  · simp only [same, if_false]

theorem deriveAt_seen (s : Scene) (i : Nat) :
    s.seen.deriveAt i = (s.deriveAt i).map seen := by
  have shape : s.seen.shapeAt? i = s.shapeAt? i := shapeAt?_eq_of_outline (outline_seen s) i
  have middle : ∀ start stop, s.seen.middle start stop = s.middle start stop := by
    intro start stop
    exact middle_congr fun id _ => place_seen s id
  simp only [deriveAt, shape, middle]
  split
  · rename_i start stop isMidpoint
    obtain f | _ | m := s.middle start stop
    · rfl
    · rfl
    · exact congrArg (Outcome.mk · none) (seen_setMiddle isMidpoint m).symm
  · rfl

theorem deriveAll_seen (s : Scene) (positions : List Nat) :
    s.seen.deriveAll positions = (s.deriveAll positions).map seen :=
  Outcome.fold_map (P := fun _ => True) (fun s i _ => deriveAt_seen s i) (fun _ _ _ => trivial)
    trivial positions

theorem deriveOrdered_seen (s : Scene) : s.seen.deriveOrdered = s.deriveOrdered.map seen := by
  unfold deriveOrdered
  rw [dependencyOrder_eq_of_outline (outline_seen s)]
  split
  · exact deriveAll_seen s _
  · rfl

theorem deriveDeclared_seen (s : Scene) : s.seen.deriveDeclared = s.deriveDeclared.map seen := by
  unfold deriveDeclared
  rw [size_eq_of_outline (outline_seen s)]
  exact deriveAll_seen s _

theorem seen_eq_of_getElem? (look : s.seen = t.seen) {i : Nat} {e e' : Entity}
    (here : s.entities[i]? = some e) (there : t.entities[i]? = some e') : e.seen = e'.seen := by
  have both : s.seen.entities[i]? = t.seen.entities[i]? := by rw [look]
  rw [getElem?_seen, getElem?_seen, here, there] at both
  exact Option.some.inj both

/-- Scenes that look the same and are the same but for what is derived are the same. -/
theorem eq_of_seen_eq (look : s.seen = t.seen) (cleared : s.clearDerived = t.clearDerived) :
    s = t := by
  apply eq_of_getElem?
  intro i
  cases here : s.entities[i]? with
  | none =>
      have size : s.entities.length = t.entities.length := by
        rw [← size, ← size, ← size_clearDerived s, cleared, size_clearDerived]
      rw [List.getElem?_eq_none_iff] at here
      exact (List.getElem?_eq_none (by omega)).symm
  | some e =>
      obtain ⟨e', there, alike⟩ := exists_of_clearDerived_eq cleared here
      rw [there, Entity.eq_of_seen_eq (seen_eq_of_getElem? look here there) alike.symm]

end Scene

namespace Stage

theorem inLayers_seen (s : Scene) (layers : List (List Kind)) :
    inLayers s.seen layers = (inLayers s layers).map Entity.seen := by
  have kept : ∀ e : Entity, e.seen.kind = e.kind := fun _ => rfl
  exact inLayers_map kept s layers

/-- A drawing of a scene is one of what is seen of it. -/
theorem drawing_seen (style : Style) (s : Scene) (layers : List (List Kind)) :
    drawing style s.seen layers = drawing style s layers := by
  unfold drawing
  rw [inLayers_seen, List.map_map]
  congr 1
  apply List.map_congr_left
  intro e _
  exact Block.of_congr rfl rfl e.position_seen
    (fun id _ => Scene.shapeOf_eq_of_outline (Scene.outline_seen s) id)
    fun id _ => Scene.place_seen s id

end Stage

end Straightedge
