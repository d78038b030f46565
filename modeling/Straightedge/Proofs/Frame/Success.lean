import Straightedge.Proofs.Frame.Layers
import Straightedge.Proofs.Frame.Soundness

/-!
# When a frame succeeds

Derived positions are doubles, so derivation fails only as the positions of the scene
do that it starts from. If doubles can hold all of these, it comes to its end and every
block finds its sources. Then only the sizes of angles are left that may cut a frame
short.
-/

namespace Straightedge

namespace Scene

variable {s f : Scene} {allowed : Fault → Prop}

/-- The positions of a scene are held by doubles, unless they fail to be in allowed ways. -/
def PositionsFailOnly (allowed : Fault → Prop) (s : Scene) : Prop :=
  ∀ e ∈ s.entities, Result.FailsOnly allowed e.values.position

theorem PositionsFailOnly.places (h : s.PositionsFailOnly allowed) :
    Block.PlacesFailOnly allowed s := by
  intro id
  unfold place
  cases found : s.find? id with
  | none => exact Result.failsOnly_of_ok ⟨none, rfl⟩
  | some e => exact h e (List.mem_of_find?_eq_some found)

theorem PositionsFailOnly.middle (h : s.PositionsFailOnly allowed) (start stop : String) :
    Result.FailsOnly allowed (s.middle start stop) := by
  apply (h.places start).bind
  intro a _
  apply (h.places stop).bind
  intro b _
  cases a <;> cases b <;> exact Result.failsOnly_of_ok ⟨_, rfl⟩

theorem PositionsFailOnly.setMiddle (h : s.PositionsFailOnly allowed) (i : Nat) (m : Vec) :
    (s.setMiddle i m).PositionsFailOnly allowed := by
  intro e member
  obtain ⟨j, position⟩ := List.getElem?_of_mem member
  rw [getElem?_setMiddle] at position
  split at position
  · obtain ⟨e, -, rfl⟩ := Option.map_eq_some_iff.mp position
    refine Result.failsOnly_of_ok ⟨some m, ?_⟩
    simp only [Values.position, Values.point?, Values.number?_setPoint_x, Values.number?_setPoint_y]
    rfl
  · exact h e (List.mem_of_getElem? position)

theorem PositionsFailOnly.deriveAt (h : s.PositionsFailOnly allowed) (i : Nat) :
    (s.deriveAt i).FailsOnly (fun _ => allowed) ∧
      (s.deriveAt i).state.PositionsFailOnly allowed := by
  unfold Scene.deriveAt
  split
  · rename_i start stop _
    have fails := h.middle start stop
    rcases middle : s.middle start stop with f | _ | m
    · refine ⟨fun f' same => ?_, h⟩
      obtain rfl := Option.some.inj same
      exact fails f middle
    · exact ⟨Outcome.failsOnly_of_none rfl, h⟩
    · exact ⟨Outcome.failsOnly_of_none rfl, h.setMiddle i m⟩
  · exact ⟨Outcome.failsOnly_of_none rfl, h⟩

/-- Derivation fails only as the positions do that it starts from, and adds no other failures. -/
theorem PositionsFailOnly.deriveAll (h : s.PositionsFailOnly allowed) (positions : List Nat) :
    (s.deriveAll positions).FailsOnly (fun _ => allowed) ∧
      (s.deriveAll positions).state.PositionsFailOnly allowed := by
  constructor
  · induction positions generalizing s with
    | nil => exact Outcome.failsOnly_of_none rfl
    | cons i positions ih =>
        rw [Scene.deriveAll, Outcome.fold_cons]
        exact (h.deriveAt i).1.andThen fun _ => ih (h.deriveAt i).2
  · exact Outcome.state_fold h (fun _ i kept => (PositionsFailOnly.deriveAt kept i).2) positions

theorem PositionsFailOnly.clearDerived (h : s.PositionsFailOnly allowed) :
    s.clearDerived.PositionsFailOnly allowed := by
  intro e member
  obtain ⟨e₁, member₁, rfl⟩ := List.mem_map.mp member
  split
  · exact Result.failsOnly_of_ok ⟨none, rfl⟩
  · exact h e₁ member₁

/-- Doubles hold every position of a scene. -/
def Representable (s : Scene) : Prop := ∀ e ∈ s.entities, ∃ p, e.values.position = .ok p

theorem representable_iff : s.Representable ↔ s.PositionsFailOnly fun _ => False := by
  simp only [Representable, PositionsFailOnly, Result.failsOnly_false_iff]

theorem Representable.placed (h : s.Representable) : Block.Placed s :=
  fun id => Result.failsOnly_false_iff.mp ((representable_iff.mp h).places id)

/-- Derivation over positions that doubles hold comes to its end, and doubles hold what is
derived. -/
theorem Representable.deriveAll (h : s.Representable) (positions : List Nat) :
    (s.deriveAll positions).fault = none ∧ (s.deriveAll positions).state.Representable := by
  obtain ⟨never, kept⟩ := (representable_iff.mp h).deriveAll positions
  exact ⟨Outcome.failsOnly_false_iff.mp never, representable_iff.mpr kept⟩

theorem Representable.clearDerived (h : s.Representable) : s.clearDerived.Representable :=
  representable_iff.mpr (representable_iff.mp h).clearDerived

/-- A frame can derive its scene unless it needs an order that there is not. -/
theorem Representable.rederive (h : s.clearDerived.Representable) {options : Options}
    (ordered : options.resolve = true → ∃ order, s.clearDerived.dependencyOrder = .ok order) :
    ∃ f, s.rederive options = ⟨f, none⟩ ∧ f.Representable := by
  unfold Scene.rederive
  split
  · rename_i early
    obtain ⟨order, sorted⟩ := ordered early
    obtain ⟨succeeds, kept⟩ := h.deriveAll order
    rw [deriveOrdered, sorted]
    exact ⟨_, Outcome.eq_done succeeds, kept⟩
  · obtain ⟨succeeds, kept⟩ := h.deriveAll (List.range s.clearDerived.size)
    exact ⟨_, Outcome.eq_done succeeds, kept⟩

end Scene

namespace Stage

variable {style : Style} {options : Options} {st : Stage Recording} {f : Scene}

/-- Layers are drawn on any recording, unless a block of them fails on its own. -/
theorem failsOnly_draw {allowed : Fault → Prop} {layers : List (List Kind)}
    (alone : ∀ e ∈ inLayers st.scene layers,
      ((Block.of style st.scene e).on ({} : Recording)).FailsOnly fun _ => allowed) :
    (st.draw style layers).FailsOnly fun _ => allowed := by
  apply Drawing.failsOnly_sequence (determined_of_mem style st.scene layers)
  intro d member
  obtain ⟨e, inLayer, rfl⟩ := List.mem_map.mp member
  exact alone e inLayer

/-- Layers of which no block fails on its own are drawn on any recording. -/
theorem fault_draw_eq_none {layers : List (List Kind)}
    (done : ∀ e ∈ inLayers st.scene layers,
      ((Block.of style st.scene e).on ({} : Recording)).fault = none) :
    (st.draw style layers).fault = none :=
  Outcome.failsOnly_false_iff.mp <| failsOnly_draw fun e inLayer =>
    Outcome.failsOnly_false_iff.mpr (done e inLayer)

/-- A surface that can be cleared is, and the scene forgets what was derived. -/
theorem clear_of_done {σ : Type} [Surface σ] {st : Stage σ}
    (clears : (Surface.clearAll st.surface).fault = none) :
    st.clear = ⟨⟨(Surface.clearAll st.surface).state, st.scene.clearDerived⟩, none⟩ := by
  have surface : st.onSurface Surface.clearAll =
      ⟨⟨(Surface.clearAll st.surface).state, st.scene⟩, none⟩ :=
    onSurface_eq_done_iff.mpr ⟨Outcome.eq_done clears, rfl⟩
  rw [clear, surface]
  rfl

/-- A frame succeeds if its surface can be cleared, its scene can be derived, and no block fails
on its own. -/
theorem fault_render_eq_none (clears : (Surface.clearAll st.surface).fault = none)
    (derived : st.scene.rederive options = ⟨f, none⟩)
    (shapes : ∀ e ∈ inLayers (shapeScene options f) shapeLayers,
      ((Block.of style (shapeScene options f) e).on ({} : Recording)).fault = none)
    (markers : ∀ e ∈ inLayers f markerLayers,
      ((Block.of style f e).on ({} : Recording)).fault = none) :
    (st.render style options).fault = none := by
  rw [render_eq, clear_of_done clears, Outcome.andThen_none]
  unfold body
  unfold Scene.rederive at derived
  unfold shapeScene at shapes
  split at derived
  · rename_i early
    rw [if_pos early] at shapes ⊢
    simp only [onScene, derived, Outcome.map, Outcome.andThen_none]
    rw [Outcome.andThen_of_none (fault_draw_eq_none shapes)]
    exact fault_draw_eq_none markers
  · rename_i late
    have cleared : f.clearDerived = st.scene.clearDerived :=
      Scene.clearDerived_rederive (by rw [Scene.rederive, if_neg late, derived])
    rw [if_neg late, cleared] at shapes
    rw [if_neg late, Outcome.andThen_of_none (fault_draw_eq_none shapes)]
    simp only [onScene, draw_scene, derived, Outcome.map, Outcome.andThen_none]
    exact fault_draw_eq_none markers

/-- With doubles for all positions, a frame in a plain style succeeds if its surface can be
cleared, there is an order to derive in where one is asked for, and the sizes of its angles are
integers. -/
theorem render_of_representable (plain : style.Plain)
    (clears : (Surface.clearAll st.surface).fault = none)
    (representable : st.scene.clearDerived.Representable)
    (ordered : options.resolve = true →
      ∃ order, st.scene.clearDerived.dependencyOrder = .ok order)
    (sized : ∀ f, st.scene.rederive options = ⟨f, none⟩ →
      ∀ e ∈ (shapeScene options f).entities, ∀ vertex first second,
        e.shape = .angle vertex first second →
          Block.Sized (shapeScene options f) vertex first second) :
    (st.render style options).fault = none := by
  obtain ⟨f, derived, held⟩ := representable.rederive ordered
  have heldShapes : (shapeScene options f).Representable := by
    unfold shapeScene
    split
    · exact held
    · exact held.clearDerived
  apply fault_render_eq_none clears derived
  · intro e inLayer
    have member := mem_of_mem_inLayers inLayer
    have sound : (Block.of style (shapeScene options f) e).Sound :=
      Block.sound_of plain heldShapes.placed (heldShapes e member) (sized f derived e member)
    exact sound.fault_eq_none ⟨1, rfl⟩
  · intro e inLayer
    rw [Block.of_marker (isMarker_of_mem_inLayers inLayer)]
    exact (Block.sound_marker plain (held e (mem_of_mem_inLayers inLayer))).fault_eq_none ⟨1, rfl⟩

end Stage

end Straightedge
