import Straightedge.Proofs.Frame.Independence
import Straightedge.Proofs.Frame.Modes
import Straightedge.Proofs.Number.Range

/-!
# The layers of a frame

A frame that succeeds leaves a scene that is derived anew from the independent
state alone, and a log that is the clear of the surface and then one block for
each entity, layer by layer. By default the shapes look for their sources before
anything is derived, so their blocks are those over the scene without derived
coordinates; that scene is found again in the one that the frame leaves.
-/

namespace Straightedge

namespace Scene

/-- Derive all midpoints as a frame does: from the independent state, in dependency order on
request and in declaration order otherwise. -/
def rederive (options : Options) (s : Scene) : Outcome Scene :=
  if options.resolve then s.clearDerived.deriveOrdered else s.clearDerived.deriveDeclared

theorem clearDerived_rederive {options : Options} {s f : Scene}
    (derived : s.rederive options = ⟨f, none⟩) : f.clearDerived = s.clearDerived := by
  unfold rederive at derived
  have kept : (Outcome.mk f none).state.clearDerived = s.clearDerived.clearDerived := by
    rw [← derived]
    split
    · exact clearDerived_deriveOrdered s.clearDerived
    · exact clearDerived_deriveDeclared s.clearDerived
  exact kept.trans (clearDerived_clearDerived s)

end Scene

namespace Stage

/-- On any surface, a frame that succeeds leaves its scene derived anew and otherwise as it was. -/
theorem scene_render {σ : Type} [Surface σ] {style : Style} {options : Options} {st : Stage σ}
    (succeeds : (st.render style options).fault = none) :
    st.scene.rederive options = ⟨(st.render style options).state.scene, none⟩ := by
  have done := Outcome.eq_done succeeds
  generalize (st.render style options).state = left at done ⊢
  rw [render_eq] at done
  obtain ⟨b, clears, done⟩ := Outcome.andThen_eq_done_iff.mp done
  have scene : b.scene = st.scene.clearDerived := by
    obtain ⟨u, surface, forgets⟩ := Outcome.andThen_eq_done_iff.mp clears
    rw [← (onSurface_eq_done_iff.mp surface).2]
    exact (congrArg Outcome.state (onScene_eq_done_iff.mp forgets).1).symm
  unfold body at done
  unfold Scene.rederive
  split at done
  · rename_i early
    obtain ⟨u, derives, done⟩ := Outcome.andThen_eq_done_iff.mp done
    obtain ⟨v, shapes, markers⟩ := Outcome.andThen_eq_done_iff.mp done
    rw [if_pos early, ← scene, (onScene_eq_done_iff.mp derives).1,
      (onSurface_eq_done_iff.mp markers).2, (onSurface_eq_done_iff.mp shapes).2]
  · rename_i late
    obtain ⟨u, shapes, done⟩ := Outcome.andThen_eq_done_iff.mp done
    obtain ⟨v, derives, markers⟩ := Outcome.andThen_eq_done_iff.mp done
    rw [if_neg late, ← scene, ← (onSurface_eq_done_iff.mp shapes).2,
      (onScene_eq_done_iff.mp derives).1, (onSurface_eq_done_iff.mp markers).2]

/-- The scene in which the shapes of a frame look for their sources, from the scene that the frame
leaves. -/
def shapeScene (options : Options) (left : Scene) : Scene :=
  if options.resolve then left else left.clearDerived

/-- What an entity contributes to the log of a frame that leaves the given scene. -/
def contribution (style : Style) (options : Options) (left : Scene) (e : Entity) : List Entry :=
  blockEntries style (shapeScene options left) e

/-- A frame that succeeds draws its shapes and its markers over the scene that it leaves, and no
block fails. -/
theorem drawn_render {style : Style} {options : Options} {st : Stage Recording}
    (succeeds : (st.render style options).fault = none) :
    let left := (st.render style options).state
    Drawn style st (shapeScene options left.scene) left.scene left := by
  have derived := scene_render succeeds
  unfold Scene.rederive at derived
  intro left
  unfold shapeScene
  split at derived
  · rename_i early
    obtain ⟨f, ordered, drawn⟩ := drawn_resolved early succeeds
    obtain rfl := congrArg Outcome.state (ordered.symm.trans derived)
    rw [if_pos early]
    exact drawn
  · rename_i late
    obtain ⟨d, declared, drawn⟩ := drawn_default (Bool.not_eq_true _ ▸ late) succeeds
    obtain rfl := congrArg Outcome.state (declared.symm.trans derived)
    rw [if_neg late, (keeps_render style options st).scene]
    exact drawn

/-- The blocks of the entities of some kinds, in declaration order. -/
def blocksOf (style : Style) (options : Options) (left : Scene) (kinds : List Kind) : List Entry :=
  (left.entities.filter fun e => kinds.contains e.kind).flatMap (contribution style options left)

theorem outline_shapeScene (options : Options) (left : Scene) :
    (shapeScene options left).outline = left.outline := by
  unfold shapeScene
  split
  · rfl
  · exact Scene.outline_clearDerived left

theorem inLayers_shapeScene (options : Options) (left : Scene) :
    inLayers (shapeScene options left) shapeLayers = inLayers left shapeLayers := by
  unfold shapeScene
  split
  · rfl
  · exact inLayers_clearDerived left (by decide)

/-- In a frame that succeeds no block fails. -/
theorem done_of_render {style : Style} {options : Options} {st : Stage Recording}
    (succeeds : (st.render style options).fault = none) {e : Entity}
    (member : e ∈ (st.render style options).state.scene.entities) :
    ((Block.of style (shapeScene options (st.render style options).state.scene) e).on
      ({} : Recording)).fault = none := by
  have drawn := drawn_render succeeds
  generalize (st.render style options).state = left at member drawn ⊢
  have inLayer : ∀ {layers : List (List Kind)}, ∀ kinds ∈ layers, e.kind ∈ kinds →
      e ∈ inLayers left.scene layers := by
    intro layers kinds layer kind
    exact List.mem_flatMap.mpr ⟨kinds, layer, List.mem_filter.mpr ⟨member, by simpa using kind⟩⟩
  have shape : ∀ kinds ∈ shapeLayers, e.kind ∈ kinds →
      ((Block.of style (shapeScene options left.scene) e).on ({} : Recording)).fault = none := by
    intro kinds layer kind
    apply drawn.shapesDone
    rw [inLayers_shapeScene]
    exact inLayer kinds layer kind
  have mark : ∀ kinds ∈ markerLayers, e.kind ∈ kinds → (e.kind = .point ∨ e.kind = .midpoint) →
      ((Block.of style (shapeScene options left.scene) e).on ({} : Recording)).fault = none := by
    intro kinds layer kind isMarker
    have made := drawn.markersDone e (inLayer kinds layer kind)
    rwa [Block.of_marker isMarker] at made ⊢
  cases kind : e.kind with
  | plane =>
      rw [Block.of_plane kind]
      rfl
  | point => exact mark [.point] (by decide) (by simp [kind]) (.inl kind)
  | midpoint => exact mark [.midpoint] (by decide) (by simp [kind]) (.inr kind)
  | line | segment | ray | bisector =>
      exact shape [.line, .segment, .ray, .bisector] (by decide) (by simp [kind])
  | angle => exact shape [.angle] (by decide) (by simp [kind])
  | angleBisector => exact shape [.angleBisector] (by decide) (by simp [kind])
  | circle => exact shape [.circle] (by decide) (by simp [kind])

/-- Clearing a whole surface of integer size leaves one entry. -/
theorem entries_clearAll {w h : Int} {st : Stage Recording} (size : st.OfSize w h)
    (succeeds : (Surface.clearAll st.surface).fault = none) :
    (Surface.clearAll st.surface).state.entries =
      [.clear 0 0 (Float.ofInt w) (Float.ofInt h)] := by
  rw [Recording.clearAll_of_size size.width size.height] at succeeds ⊢
  cases made : Recording.clearEntry 0 0 (.int w) (.int h) with
  | error f =>
      rw [made] at succeeds
      cases succeeds
  | ok entry =>
      simp only [Recording.clearEntry, Result.bind_eq_ok_iff, Result.pure_eq_ok_iff] at made
      obtain ⟨x, atLeft, y, atTop, width, toWidth, height, toHeight, rfl⟩ := made
      obtain ⟨-, rfl⟩ := Num.toFloat_int_eq_ok_iff.mp toWidth
      obtain ⟨-, rfl⟩ := Num.toFloat_int_eq_ok_iff.mp toHeight
      have zero : Float.ofInt 0 = 0 := by decide +kernel
      obtain rfl : x = 0 := (Num.toFloat_int_eq_ok_iff.mp atLeft).2.trans zero
      obtain rfl : y = 0 := (Num.toFloat_int_eq_ok_iff.mp atTop).2.trans zero
      rfl

theorem clears_of_render {style : Style} {options : Options} {st : Stage Recording}
    (succeeds : (st.render style options).fault = none) :
    (Surface.clearAll st.surface).fault = none := by
  rw [render_eq] at succeeds
  have clears := (Outcome.andThen_fault_eq_none_iff.mp succeeds).1
  exact (Outcome.andThen_fault_eq_none_iff.mp clears).1

theorem mem_of_mem_inLayers {f : Scene} {layers : List (List Kind)} {e : Entity}
    (h : e ∈ inLayers f layers) : e ∈ f.entities := by
  obtain ⟨kinds, -, member⟩ := List.mem_flatMap.mp h
  exact List.mem_of_mem_filter member

theorem isMarker_of_mem_inLayers {f : Scene} {e : Entity} (h : e ∈ inLayers f markerLayers) :
    e.kind = .point ∨ e.kind = .midpoint := by
  obtain ⟨kinds, layer, member⟩ := List.mem_flatMap.mp h
  have kind : e.kind ∈ kinds := by simpa using (List.mem_filter.mp member).2
  simp only [markerLayers, List.mem_cons, List.not_mem_nil, or_false] at layer
  rcases layer with rfl | rfl
  · exact .inl (List.mem_singleton.mp kind)
  · exact .inr (List.mem_singleton.mp kind)

/-- The log of a frame that succeeds, on any surface: the clear, and the blocks of the entities. -/
theorem entries_render_layers {style : Style} {options : Options} {st : Stage Recording}
    (succeeds : (st.render style options).fault = none) :
    let left := (st.render style options).state
    left.surface.entries = (Surface.clearAll st.surface).state.entries ++
      (inLayers left.scene (shapeLayers ++ markerLayers)).flatMap
        (contribution style options left.scene) := by
  intro left
  have drawn := drawn_render succeeds
  have shapes : (inLayers (shapeScene options left.scene) shapeLayers).flatMap
      (blockEntries style (shapeScene options left.scene)) =
      (inLayers left.scene shapeLayers).flatMap (contribution style options left.scene) := by
    rw [inLayers_shapeScene]
    rfl
  have markers : (inLayers left.scene markerLayers).flatMap (blockEntries style left.scene) =
      (inLayers left.scene markerLayers).flatMap (contribution style options left.scene) := by
    apply List.flatMap_congr
    intro e member
    have isMarker := isMarker_of_mem_inLayers member
    rw [contribution, blockEntries, blockEntries, Block.of_marker isMarker,
      Block.of_marker isMarker]
  rw [drawn.entries, shapes, markers, inLayers_append, List.flatMap_append, List.append_assoc]

/-- The log of a frame that succeeds: the clear, and the blocks of the entities, layer by layer. -/
theorem entries_render {w h : Int} {style : Style} {options : Options} {st : Stage Recording}
    (size : st.OfSize w h) (succeeds : (st.render style options).fault = none) :
    let left := (st.render style options).state
    let blocks := blocksOf style options left.scene
    left.surface.entries = .clear 0 0 (Float.ofInt w) (Float.ofInt h) ::
      (blocks [.line, .segment, .ray, .bisector] ++ blocks [.angle] ++ blocks [.angleBisector] ++
        blocks [.circle] ++ blocks [.point] ++ blocks [.midpoint]) := by
  intro left blocks
  rw [entries_render_layers succeeds, entries_clearAll size (clears_of_render succeeds), inLayers,
    List.flatMap_assoc]
  simp only [shapeLayers, markerLayers, List.flatMap_cons, List.flatMap_nil, List.append_nil,
    List.append_assoc, List.cons_append, List.nil_append]
  rfl

end Stage

end Straightedge
