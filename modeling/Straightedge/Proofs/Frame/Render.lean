import Straightedge.Frame.Render
import Straightedge.Proofs.Canvas.Recording
import Straightedge.Proofs.Dependency.Derivation
import Straightedge.Proofs.Frame.Blocks

/-!
# How a frame proceeds

A frame clears, and then draws and derives in turn. Whether it succeeds or is cut
short, it keeps the size of the surface and everything of the scene but what is
derived; and as its blocks are determined without the pen, a frame that succeeds
adds the entries of one block after the other.
-/

namespace Straightedge

namespace Stage

theorem determined_of_mem (style : Style) (s : Scene) (layers : List (List Kind)) :
    ∀ d ∈ (inLayers s layers).map (Block.of style s), d.Determined [] [] := by
  intro d member
  obtain ⟨e, -, rfl⟩ := List.mem_map.mp member
  exact Block.determined_of style s e

/-- Every drawing of a scene is determined without the pen. -/
theorem determined_drawing (style : Style) (s : Scene) (layers : List (List Kind)) :
    (drawing style s layers).Determined [] [] := by
  apply Drawing.determined_sequence
  exact determined_of_mem style s layers

/-- A change of all entities that keeps their kinds keeps their layers. -/
theorem inLayers_map {change : Entity → Entity} (kept : ∀ e, (change e).kind = e.kind) (s : Scene)
    (layers : List (List Kind)) :
    inLayers ⟨s.entities.map change⟩ layers = (inLayers s layers).map change := by
  have layer : ∀ kinds : List Kind,
      (s.entities.map change).filter (fun e => kinds.contains e.kind) =
        (s.entities.filter fun e => kinds.contains e.kind).map change := by
    intro kinds
    simp only [List.filter_map, Function.comp_def, kept]
  simp only [inLayers, layer, List.map_flatMap]

/-- The entries of the block of an entity. -/
def blockEntries (style : Style) (s : Scene) (e : Entity) : List Entry :=
  (Block.of style s e).entries

/-- Layers that are drawn without a fault add the entries of their blocks, in order, and no block
of them fails. -/
theorem entries_draw {style : Style} {layers : List (List Kind)} {st : Stage Recording}
    (succeeds : (st.draw style layers).fault = none) :
    (∀ e ∈ inLayers st.scene layers,
        ((Block.of style st.scene e).on ({} : Recording)).fault = none) ∧
      (st.draw style layers).state.surface.entries =
        st.surface.entries ++ (inLayers st.scene layers).flatMap (blockEntries style st.scene) := by
  have made := (determined_drawing style st.scene layers).on_eq st.surface
  obtain ⟨blocks, entries⟩ := Drawing.entries_sequence (determined_of_mem style st.scene layers)
    (made.1.symm.trans succeeds)
  constructor
  · intro e member
    exact blocks _ (List.mem_map_of_mem member)
  · rw [List.flatMap_map] at entries
    exact made.2.trans (congrArg (st.surface.entries ++ ·) entries)

theorem onSurface_eq_done_iff {σ : Type} {st t : Stage σ} {act : σ → Outcome σ} :
    st.onSurface act = ⟨t, none⟩ ↔ act st.surface = ⟨t.surface, none⟩ ∧ t.scene = st.scene := by
  obtain ⟨surface, scene⟩ := t
  simp only [onSurface, Outcome.map, Outcome.mk.injEq, mk.injEq]
  obtain ⟨drawn, fault⟩ := act st.surface
  simp only [Outcome.mk.injEq]
  grind

theorem onScene_eq_done_iff {σ : Type} {st t : Stage σ} {act : Scene → Outcome Scene} :
    st.onScene act = ⟨t, none⟩ ↔ act st.scene = ⟨t.scene, none⟩ ∧ t.surface = st.surface := by
  obtain ⟨surface, scene⟩ := t
  simp only [onScene, Outcome.map, Outcome.mk.injEq, mk.injEq]
  obtain ⟨derived, fault⟩ := act st.scene
  simp only [Outcome.mk.injEq]
  grind

/-- What follows the clear of a frame. -/
def body {σ : Type} [Surface σ] (style : Style) (options : Options) (st : Stage σ) :
    Outcome (Stage σ) :=
  if options.resolve then
    (st.onScene Scene.deriveOrdered).andThen fun st =>
    (st.draw style shapeLayers).andThen fun st =>
    st.draw style markerLayers
  else
    (st.draw style shapeLayers).andThen fun st =>
    (st.onScene Scene.deriveDeclared).andThen fun st =>
    st.draw style markerLayers

theorem render_eq {σ : Type} [Surface σ] (style : Style) (options : Options) (st : Stage σ) :
    st.render style options = st.clear.andThen (body style options) := by
  unfold render body
  split <;> rfl

/-- What the operations that frames consist of preserve, a frame preserves, however it ends. -/
theorem render_preserves {σ : Type} [Surface σ] {P : Stage σ → Prop} {style : Style}
    {options : Options} {st : Stage σ} (start : P st)
    (wipes : ∀ st', P st' → P (st'.onSurface Surface.clearAll).state)
    (draws : ∀ layers st', P st' → P (st'.draw style layers).state)
    (derives : ∀ act : Scene → Outcome Scene,
      (∀ s, (act s).state.clearDerived = s.clearDerived) →
        ∀ st', P st' → P (st'.onScene act).state) :
    P (st.render style options).state := by
  have early := derives _ Scene.clearDerived_deriveOrdered
  have late := derives _ Scene.clearDerived_deriveDeclared
  have cleared : P st.clear.state :=
    Outcome.state_andThen (wipes st start) (derives _ Scene.clearDerived_clearDerived)
  rw [render_eq]
  apply Outcome.state_andThen cleared
  intro st' kept
  unfold body
  split
  · apply Outcome.state_andThen (early st' kept)
    intro st' kept
    exact Outcome.state_andThen (draws shapeLayers st' kept) (draws markerLayers)
  · apply Outcome.state_andThen (draws shapeLayers st' kept)
    intro st' kept
    exact Outcome.state_andThen (late st' kept) (draws markerLayers)

/-- On any surface and however a frame ends, the ids, shapes and places of all entities in their
order, and the values of all but midpoints are as before. -/
theorem clearDerived_render {σ : Type} [Surface σ] (style : Style) (options : Options)
    (st : Stage σ) :
    (st.render style options).state.scene.clearDerived = st.scene.clearDerived := by
  apply render_preserves (P := fun st' => st'.scene.clearDerived = st.scene.clearDerived) rfl
  · exact fun _ kept => kept
  · exact fun _ _ kept => kept
  · exact fun _ same st' kept => (same st'.scene).trans kept

/-- What an operation on stages leaves alone: the size of the surface, and all of the scene but
what is derived. -/
structure Keeps (st st' : Stage Recording) : Prop where
  size : st.surface.SameSize st'.surface
  scene : st'.scene.clearDerived = st.scene.clearDerived

/-- However a frame ends, it leaves the size of the surface and all that is not derived alone. -/
theorem keeps_render (style : Style) (options : Options) (st : Stage Recording) :
    st.Keeps (st.render style options).state where
  size := by
    apply render_preserves (P := fun st' => st.surface.SameSize st'.surface) ⟨rfl, rfl⟩
    · intro st' kept
      exact kept.trans (Recording.sameSize_perform st'.surface (.clear _ _ _ _))
    · intro layers st' kept
      exact kept.trans (Drawing.sameSize_on (drawing style st'.scene layers) st'.surface)
    · exact fun _ _ _ kept => kept
  scene := clearDerived_render style options st

end Stage

end Straightedge
