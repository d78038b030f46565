import Straightedge.Frame.Blocks
import Straightedge.Proofs.Canvas.Determined

/-!
# Blocks depend on nothing that was drawn before

Every block begins a path before it adds steps to it and sets each style before
it strokes, fills or writes with it, so it leaves the same entries on any
recording. Of the scene a block takes only where the sources of its entity are
and, for an angle bisector, what the bisected entity is.
-/

namespace Straightedge.Block

open Drawing (Determined determined_pen determined_pure determined_step determined_text)
open Pen (Part)

variable {known : List Part} {style : Style} {s s' : Scene}

theorem determined_moveTo (p : Vec) : (moveTo p).Determined known known :=
  determined_step _

theorem determined_lineTo (p : Vec) : (lineTo p).Determined known known :=
  determined_step _

theorem determined_arcAround (center : Vec) (radius start stop : Num) :
    (arcAround center radius start stop).Determined known known :=
  determined_step _

theorem determined_circleAround (center : Vec) (radius : Num) :
    (circleAround center radius).Determined known known :=
  determined_arcAround center radius _ _

/-- With a path begun, a stroke sets all else that it shows. -/
theorem determined_strokeIn (begun : .path ∈ known) (color : String) (width : Num) :
    (strokeIn color width).Determined known (.lineWidth :: .strokeColor :: known) := by
  apply Determined.pen_bind rfl
  apply Determined.pen_bind rfl
  exact Drawing.determined_stroke (by simp [PenCall.sets, begun])

/-- A label sets all that it shows, wherever it is placed. -/
theorem determined_label {align text : String} {place : Drawing Vec}
    (placed : ∀ known, place.Determined known known) :
    (label style align text place).Determined known [] := by
  apply Determined.pen_bind rfl
  apply Determined.lift_bind
  intro color
  apply Determined.pen_bind rfl
  apply Determined.pen_bind rfl
  apply Determined.pen_bind rfl
  apply (placed _).bind
  intro p
  exact (determined_text (by simp [PenCall.sets]) text _ _).mono (List.nil_subset _)

theorem determined_stroke (a b : Vec) (color : String) (width : Num) :
    (stroke a b color width).Determined known (.strokeColor :: known) := by
  apply Determined.pen_bind rfl
  apply (determined_moveTo a).bind
  intro _
  apply (determined_lineTo b).bind
  intro _
  apply (determined_strokeIn (by simp [PenCall.sets]) color width).mono
  simp +contextual [PenCall.sets, List.subset_def]

/-- The head of an arrow takes its colour from the stroke before it and leaves it there. -/
theorem determined_arrow (stroked : .strokeColor ∈ known) (tail head : Vec) :
    (arrow style tail head).Determined known known := by
  apply Determined.found_bind rfl
  intro ⟨tip, left, right⟩
  apply Determined.pen_bind rfl
  apply (determined_moveTo tip).bind
  intro _
  apply (determined_lineTo left).bind
  intro _
  apply (determined_lineTo right).bind
  intro _
  apply Determined.pen_bind rfl
  apply (determined_pen (by simp [PenCall.reads, PenCall.sets, stroked])).bind
  intro _
  apply (Drawing.determined_fill (by simp [PenCall.sets])).mono
  simp +contextual [PenCall.sets, List.subset_def]

theorem determined_line (start stop : String) : (line style s start stop).Determined [] [] := by
  apply Determined.found_bind rfl
  intro ⟨a, b⟩
  apply Determined.lift_bind
  intro color
  apply (determined_stroke a b color style.lineWidth).bind
  intro _
  apply (determined_arrow List.mem_cons_self b a).bind
  intro _
  exact (determined_arrow List.mem_cons_self a b).mono (List.nil_subset _)

theorem determined_segment (start stop : String) :
    (segment style s start stop).Determined [] [] := by
  apply Determined.found_bind rfl
  intro ⟨a, b⟩
  apply Determined.lift_bind
  intro color
  exact (determined_stroke a b color style.lineWidth).mono (List.nil_subset _)

theorem determined_ray (start through : String) :
    (ray style s start through).Determined [] [] := by
  apply Determined.found_bind rfl
  intro ⟨a, b⟩
  apply Determined.found_bind rfl
  intro far
  apply Determined.lift_bind
  intro color
  apply (determined_stroke a far color style.lineWidth).bind
  intro _
  exact (determined_arrow List.mem_cons_self a far).mono (List.nil_subset _)

theorem determined_bisector (start stop : String) :
    (bisector style s start stop).Determined [] [] := by
  apply Determined.found_bind rfl
  intro ⟨a, b⟩
  apply Determined.found_bind rfl
  intro ⟨p, q⟩
  apply Determined.lift_bind
  intro color
  exact (determined_stroke p q color style.lineWidth).mono (List.nil_subset _)

theorem determined_angle (vertex first second : String) :
    (angle style s vertex first second).Determined [] [] := by
  apply Determined.found_bind rfl
  intro ⟨v, a, b⟩
  apply Determined.lift_bind
  intro arc
  apply Determined.pen_bind rfl
  apply (determined_arcAround arc.center _ _ _).bind
  intro _
  apply Determined.lift_bind
  intro color
  apply (determined_strokeIn (by simp [PenCall.sets]) color style.lineWidth).bind
  intro _
  exact determined_label fun _ => determined_pure _

theorem determined_angleBisector (id : String) :
    (angleBisector style s id).Determined [] [] := by
  apply Determined.found_bind rfl
  intro ⟨v, a, b⟩
  dsimp only
  split
  · exact determined_pure ()
  · apply Determined.lift_bind
    intro reach
    apply Determined.lift_bind
    intro color
    exact (determined_stroke v _ color style.lineWidth).mono (List.nil_subset _)

theorem determined_circle (center through : String) :
    (circle style s center through).Determined [] [] := by
  apply Determined.found_bind rfl
  intro ⟨c, p⟩
  apply Determined.pen_bind rfl
  apply (determined_circleAround c _).bind
  intro _
  apply Determined.lift_bind
  intro color
  apply (determined_strokeIn (by simp [PenCall.sets]) color style.lineWidth).mono
  exact List.nil_subset _

theorem determined_marker (e : Entity) : (marker style e).Determined [] [] := by
  apply Determined.found_bind rfl
  intro p
  apply Determined.pen_bind rfl
  apply (determined_circleAround p style.pointRadius).bind
  intro _
  apply Determined.lift_bind
  intro fill
  apply Determined.pen_bind rfl
  apply (Drawing.determined_fill (by simp [PenCall.sets])).bind
  intro _
  apply Determined.lift_bind
  intro outline
  apply (determined_strokeIn (by simp [PenCall.sets]) outline style.outlineWidth).bind
  intro _
  apply determined_label
  intro known
  apply Determined.lift_bind
  intro shift
  exact determined_pure _

/-- Whatever the pen and the path were, a block leaves the same entries. -/
theorem determined_of (style : Style) (s : Scene) (e : Entity) :
    (Block.of style s e).Determined [] [] := by
  unfold Block.of
  split
  · exact determined_line _ _
  · exact determined_segment _ _
  · exact determined_ray _ _
  · exact determined_bisector _ _
  · exact determined_angle _ _ _
  · exact determined_angleBisector _
  · exact determined_circle _ _
  · exact determined_marker e
  · exact determined_marker e
  · exact determined_pure ()

end Straightedge.Block
