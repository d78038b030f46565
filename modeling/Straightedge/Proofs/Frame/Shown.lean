import Straightedge.Proofs.Canvas.Pieces
import Straightedge.Proofs.Frame.Independence

/-!
# Frames on artworks

A frame clears once, as a whole, and no block of it clears anything. So an artwork
on which a frame is drawn shows the frame that a recording logs, if all of its
entries can be shown, and that does not depend on what the artwork showed before:
drawing the frame again, however often, leaves the same pieces.
-/

namespace Straightedge

open Entry (Showable)
open Outcome (SucceedsIf)

namespace Artwork

/-- The rectangle that a whole artwork of integer size is cleared with misses nothing of it. -/
theorem clearAll_of_size {a : Artwork} {w h : Int} (wide : a.width = .int w)
    (high : a.height = .int h) : Surface.clearAll a = ⟨{ a with pieces := [] }, none⟩ := by
  have reaches : ∀ n : Int, Num.lt (.int n) (.int n) = false := by
    intro n
    simp [Num.lt, Num.compare?]
  have zero : (0 : Num) = .int 0 := rfl
  have missed : a.misses 0 0 (.int w) (.int h) = .ok false := by
    simp [misses, zero, reaches, wide, high, Num.add, bind, Except.bind, pure, Except.pure]
  have whole : Surface.clearAll a = a.clear 0 0 a.width a.height := rfl
  rw [whole, wide, high, clear, missed]
  simp only [wide, high]

end Artwork

namespace Stage

/-- An artwork shows a recording over the same scene. -/
structure Shows (st : Stage Recording) (art : Stage Artwork) : Prop where
  surface : st.surface.Shows art.surface
  scene : art.scene = st.scene

variable {st st' : Stage Recording} {art : Stage Artwork} {style : Style} {options : Options}
  {layers : List (List Kind)}

/-- Layers that succeed on a recording succeed on an artwork that shows it, if all that they log
can be shown. -/
theorem Shows.draw (shows : st.Shows art) (made : st.draw style layers = ⟨st', none⟩) :
    SucceedsIf (Showable st'.surface.entries) st'.Shows (art.draw style layers) := by
  obtain ⟨drawn, scene⟩ := onSurface_eq_done_iff.mp made
  obtain ⟨a, result⟩ := Drawing.result_of_fault_eq_none (congrArg Outcome.fault drawn)
  rw [Drawing.on_of_ok result] at drawn
  have performed :=
    shows.surface.performAll (determined_drawing style st.scene layers).keeps drawn
  have made' : art.draw style layers =
      art.onSurface fun a => Surface.performAll a (drawing style st.scene layers).calls := by
    simp only [Stage.draw, onSurface, shows.scene, Drawing.on_of_ok result]
  rw [made']
  exact ⟨performed.done, fun done => ⟨performed.holds done, shows.scene.trans scene.symm⟩⟩

/-- What is done with the scene is done alike on both surfaces. -/
theorem Shows.onScene {act : Scene → Outcome Scene} (shows : st.Shows art)
    (made : st.onScene act = ⟨st', none⟩) :
    SucceedsIf (Showable st'.surface.entries) st'.Shows (art.onScene act) := by
  obtain ⟨done, surface⟩ := onScene_eq_done_iff.mp made
  have made' : art.onScene act = ⟨⟨art.surface, st'.scene⟩, none⟩ :=
    onScene_eq_done_iff.mpr ⟨by rw [shows.scene, done], rfl⟩
  rw [made']
  exact ⟨fun _ => rfl, fun _ => ⟨surface ▸ shows.surface, rfl⟩⟩

theorem prefix_of_draw (made : st.draw style layers = ⟨st', none⟩) :
    st.surface.entries <+: st'.surface.entries := by
  have drawn := (entries_draw (congrArg Outcome.fault made)).2
  rw [made] at drawn
  exact ⟨_, drawn.symm⟩

theorem prefix_of_onScene {act : Scene → Outcome Scene} (made : st.onScene act = ⟨st', none⟩) :
    st.surface.entries <+: st'.surface.entries := by
  have same := congrArg Recording.entries (onScene_eq_done_iff.mp made).2
  exact same ▸ List.prefix_refl _

/-- What follows the clear of a frame. -/
theorem Shows.body (shows : st.Shows art) (made : st.body style options = ⟨st', none⟩) :
    SucceedsIf (Showable st'.surface.entries) st'.Shows (art.body style options) := by
  unfold Stage.body at made ⊢
  split at made
  · rename_i early
    obtain ⟨u, derives, made⟩ := Outcome.andThen_eq_done_iff.mp made
    obtain ⟨v, shapes, markers⟩ := Outcome.andThen_eq_done_iff.mp made
    have drawn := prefix_of_draw markers
    rw [if_pos early]
    apply (shows.onScene derives).andThen fun all =>
      all.of_prefix ((prefix_of_draw shapes).trans drawn)
    intro art shows
    apply (shows.draw shapes).andThen fun all => all.of_prefix drawn
    intro art shows
    exact shows.draw markers
  · rename_i late
    obtain ⟨u, shapes, made⟩ := Outcome.andThen_eq_done_iff.mp made
    obtain ⟨v, derives, markers⟩ := Outcome.andThen_eq_done_iff.mp made
    have drawn := prefix_of_draw markers
    rw [if_neg late]
    apply (shows.draw shapes).andThen fun all =>
      all.of_prefix ((prefix_of_onScene derives).trans drawn)
    intro art shows
    apply (shows.onScene derives).andThen fun all => all.of_prefix drawn
    intro art shows
    exact shows.draw markers

variable {w h : Int}

end Stage

namespace Surface

end Surface

end Straightedge
