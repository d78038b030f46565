import Straightedge.Canvas.Drawing
import Straightedge.Canvas.Recording
import Straightedge.Proofs.Outcome

/-!
# What recordings do

A whole surface of integer size is covered by the rectangle it is cleared with,
an entry is added to the log if it can be made at all, and nothing changes the
size of a surface.
-/

namespace Straightedge

namespace Recording

/-- The rectangle that a whole surface of integer size is cleared with covers it. -/
theorem clearAll_of_size {r : Recording} {w h : Int} (width : r.width = .int w)
    (height : r.height = .int h) :
    Surface.clearAll r = push { r with entries := [] } (clearEntry 0 0 (.int w) (.int h)) := by
  have zero : (0 : Num) = .int 0 := rfl
  have reaches : ∀ n : Int, Num.le (.int n) (.int n) = true := by
    intro n
    simp [Num.le, Num.compare?]
  have covered : r.covers 0 0 (.int w) (.int h) = .ok true := by
    simp only [Recording.covers, zero, reaches, width, height, Num.add, Bool.and_self, if_true]
    simp [bind, Except.bind, pure, Except.pure, reaches]
  have whole : Surface.clearAll r = r.clear 0 0 r.width r.height := rfl
  rw [whole, width, height, clear, covered]
  simp only [if_true, width, height]

/-- Recordings of the same size. -/
structure SameSize (r r' : Recording) : Prop where
  width : r'.width = r.width
  height : r'.height = r.height

variable {r r' r'' : Recording}

theorem SameSize.trans (first : r.SameSize r') (rest : r'.SameSize r'') : r.SameSize r'' :=
  ⟨rest.width.trans first.width, rest.height.trans first.height⟩

theorem sameSize_push (r : Recording) (entry : Except Fault Entry) :
    r.SameSize (r.push entry).state := by
  cases entry <;> exact ⟨rfl, rfl⟩

theorem push_eq_done_iff {entry : Except Fault Entry} :
    r.push entry = ⟨r', none⟩ ↔
      ∃ e, entry = .ok e ∧ r' = { r with entries := r.entries ++ [e] } := by
  cases entry with
  | error f => simp [push]
  | ok e => simp [push, eq_comm]

/-- No call changes the size of a surface. -/
theorem sameSize_perform (r : Recording) (c : Call) : r.SameSize (r.perform c).state := by
  cases c with
  | pen c => exact ⟨rfl, rfl⟩
  | clear x y width height =>
      simp only [perform, clear]
      split
      · exact ⟨rfl, rfl⟩
      · refine SameSize.trans ?_ (sameSize_push _ _)
        split <;> exact ⟨rfl, rfl⟩
  | stroke => exact sameSize_push r _
  | fill => exact sameSize_push r _
  | text text x y => exact sameSize_push r _

end Recording

namespace Drawing

theorem sameSize_on {α : Type} (d : Drawing α) (r : Recording) : r.SameSize (d.on r).state := by
  have performed : r.SameSize (Surface.performAll r d.calls).state := by
    apply Outcome.state_fold (P := r.SameSize) ⟨rfl, rfl⟩
    intro s c kept
    exact kept.trans (Recording.sameSize_perform s c)
  apply Outcome.state_andThen performed
  intro s kept
  exact kept

end Drawing

end Straightedge
