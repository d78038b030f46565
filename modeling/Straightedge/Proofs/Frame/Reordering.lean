import Straightedge.Proofs.Dependency.Reordering
import Straightedge.Proofs.Frame.Success

/-!
# Frames of reordered scenes

With midpoints derived first, a block depends only on the scene that the frame
leaves, and in a reordered scene that is the same scene in the new order. So the
frame succeeds in every order of declaration, and its layers hold the same blocks,
each where its entity is declared.
-/

namespace Straightedge

namespace Scene.Reordered

variable {s s' f : Scene} {options : Options}

theorem rederive (reordered : s.Reordered s') (early : options.resolve = true)
    (derived : s.rederive options = ⟨f, none⟩) :
    ∃ f', s'.rederive options = ⟨f', none⟩ ∧ f.Reordered f' := by
  simp only [Scene.rederive, if_pos early] at derived ⊢
  exact reordered.clearDerived.deriveOrdered derived

end Scene.Reordered

namespace Stage

variable {style : Style} {options : Options} {st st' : Stage Recording} {f f' : Scene}

theorem shapeScene_of_resolve (early : options.resolve = true) (left : Scene) :
    shapeScene options left = left := if_pos early

/-- The block of an entity is the same in whatever order a scene is declared. -/
theorem block_eq_of_reordered (reordered : f.Reordered f') (style : Style) :
    Block.of style f = Block.of style f' := by
  funext e
  exact Block.of_congr rfl rfl rfl (fun id _ => reordered.shapeOf_eq id)
    fun id _ => reordered.place_eq id

theorem contribution_eq_of_reordered (reordered : f.Reordered f') (early : options.resolve = true)
    (style : Style) : contribution style options f = contribution style options f' := by
  funext e
  rw [contribution, contribution, shapeScene_of_resolve early, shapeScene_of_resolve early,
    blockEntries, blockEntries, block_eq_of_reordered reordered]

theorem perm_inLayers (reordered : f.Reordered f') (layers : List (List Kind)) :
    (inLayers f layers).Perm (inLayers f' layers) := by
  apply List.Perm.flatMap_left
  intro kinds _
  exact reordered.perm.filter _

/-- The log of a frame, as a sequence of layers. -/
theorem entries_render_inLayers {w h : Int} (size : st.OfSize w h)
    (succeeds : (st.render style options).fault = none) :
    (st.render style options).state.surface.entries =
      .clear 0 0 (Float.ofInt w) (Float.ofInt h) ::
        (inLayers (st.render style options).state.scene (shapeLayers ++ markerLayers)).flatMap
          (contribution style options (st.render style options).state.scene) := by
  rw [entries_render_layers succeeds, entries_clearAll size (clears_of_render succeeds)]
  rfl

/-- Whether a surface can be cleared is a matter of its size. -/
theorem fault_clearAll_eq {w h : Int} (size : st.OfSize w h) (size' : st'.OfSize w h) :
    (Surface.clearAll st.surface).fault = (Surface.clearAll st'.surface).fault := by
  rw [Recording.clearAll_of_size size.width size.height,
    Recording.clearAll_of_size size'.width size'.height]
  cases Recording.clearEntry 0 0 (.int w) (.int h) with
  | error f => rfl
  | ok entry => rfl

/-- A frame that succeeds succeeds in every order of declaration, and leaves the reordered
scene. -/
theorem render_of_reordered {w h : Int} (size : st.OfSize w h) (size' : st'.OfSize w h)
    (reordered : st.scene.Reordered st'.scene) (early : options.resolve = true)
    (succeeds : (st.render style options).fault = none) :
    (st'.render style options).fault = none ∧
      (st.render style options).state.scene.Reordered (st'.render style options).state.scene := by
  obtain ⟨f', derived, brought⟩ := reordered.rederive early (scene_render succeeds)
  have clears : (Surface.clearAll st'.surface).fault = none :=
    (fault_clearAll_eq size' size).trans (clears_of_render succeeds)
  have done : ∀ e ∈ f'.entities, ((Block.of style f' e).on ({} : Recording)).fault = none := by
    intro e member
    rw [← block_eq_of_reordered brought]
    have made := done_of_render succeeds (brought.perm.mem_iff.mpr member)
    rwa [shapeScene_of_resolve early] at made
  have succeeds' : (st'.render style options).fault = none := by
    apply fault_render_eq_none clears derived
    · intro e inLayer
      rw [shapeScene_of_resolve early] at inLayer ⊢
      exact done e (mem_of_mem_inLayers inLayer)
    · intro e inLayer
      exact done e (mem_of_mem_inLayers inLayer)
  refine ⟨succeeds', ?_⟩
  have left : (st'.render style options).state.scene = f' :=
    congrArg Outcome.state ((scene_render succeeds').symm.trans derived)
  rwa [left]

/-- With midpoints derived first, a frame does not depend on the order in which entities with
distinct ids are declared. Whether there is an order to derive in does not depend on it. If the
frame succeeds in one order of declaration, it succeeds in every other, leaves the same entity
under each id, and its log has the same block for each entity: after the clear these follow layer
by layer, and within a layer as declared. -/
theorem render_reordered {w h : Int} (size : st.OfSize w h) (size' : st'.OfSize w h)
    (distinct : st.scene.ids.Nodup) (perm : st.scene.entities.Perm st'.scene.entities)
    (early : options.resolve = true) :
    ((∃ order, st.scene.dependencyOrder = .ok order) ↔
      ∃ order, st'.scene.dependencyOrder = .ok order) ∧
    ((st.render style options).fault = none →
      let left := (st.render style options).state
      let left' := (st'.render style options).state
      let block := contribution style options left.scene
      (st'.render style options).fault = none ∧
      left'.scene.clearDerived = st'.scene.clearDerived ∧
      (∀ id, left'.scene.find? id = left.scene.find? id) ∧
      left.surface.entries = .clear 0 0 (Float.ofInt w) (Float.ofInt h) ::
        (inLayers left.scene (shapeLayers ++ markerLayers)).flatMap block ∧
      left'.surface.entries = .clear 0 0 (Float.ofInt w) (Float.ofInt h) ::
        (inLayers left'.scene (shapeLayers ++ markerLayers)).flatMap block ∧
      (∀ kinds, (inLayers left.scene [kinds]).Perm (inLayers left'.scene [kinds])) ∧
      left.surface.entries.Perm left'.surface.entries) := by
  have reordered : st.scene.Reordered st'.scene := ⟨distinct, perm⟩
  refine ⟨reordered.exists_dependencyOrder_iff, ?_⟩
  intro succeeds left left' block
  obtain ⟨succeeds', brought⟩ := render_of_reordered size size' reordered early succeeds
  have entries := entries_render_inLayers size succeeds
  have entries' := entries_render_inLayers size' succeeds'
  rw [← contribution_eq_of_reordered brought early] at entries'
  refine ⟨succeeds', (keeps_render style options st').scene, fun id => (brought.find?_eq id).symm,
    entries, entries', fun kinds => perm_inLayers brought [kinds], ?_⟩
  rw [entries, entries']
  exact ((perm_inLayers brought _).flatMap_right block).cons _

/-- A midpoint and a segment that ends there, declared before what they are made from. -/
theorem render_reordered_reverse :
    let s : Scene := ⟨[
      { id := "A", shape := .point, values := .ofPoint 0 0 },
      { id := "B", shape := .point, values := .ofPoint 4 2 },
      { id := "M", shape := .midpoint "A" "B" },
      { id := "S", shape := .segment "A" "M" }]⟩
    let st : Stage Recording := ⟨{}, s⟩
    let st' : Stage Recording := ⟨{}, ⟨s.entities.reverse⟩⟩
    (st.render .default { resolve := true }).fault = none ∧
      (st'.render .default { resolve := true }).fault = none ∧
      (st'.render .default { resolve := true }).state.scene.find? "M" =
        (st.render .default { resolve := true }).state.scene.find? "M" ∧
      (st.render .default { resolve := true }).state.surface.entries ≠
        (st'.render .default { resolve := true }).state.surface.entries ∧
      (st.render .default { resolve := true }).state.surface.entries.Perm
        (st'.render .default { resolve := true }).state.surface.entries := by
  intro s st st'
  have distinct : st.scene.ids.Nodup := by decide
  have perm : s.entities.Perm s.entities.reverse := (List.reverse_perm s.entities).symm
  have size : st.OfSize 500 500 := ⟨rfl, rfl⟩
  have size' : st'.OfSize 500 500 := ⟨rfl, rfl⟩
  have succeeds : (st.render .default { resolve := true }).fault = none := by decide +kernel
  have early : ({ resolve := true } : Options).resolve = true := rfl
  obtain ⟨succeeds', -, found, -, -, -, same⟩ :=
    (render_reordered size size' distinct perm early).2 succeeds
  exact ⟨succeeds, succeeds', found "M", by decide +kernel, same⟩

end Stage

end Straightedge
