import Straightedge.Canvas.Outline
import Straightedge.Proofs.Result

/-!
# Which paths have an outline

The numbers of a path that a surface has taken in are doubles, so nothing can fail
as the path becomes an outline but the sampling of an arc, and that only when its
sweep can not be cut into a whole number of steps.
-/

namespace Straightedge

namespace Arc

end Arc

namespace PathStep

end PathStep

namespace Outline

namespace Draft

/-- All that a draft has collected are doubles. -/
structure OfDoubles (d : Draft) : Prop where
  vertices : ∀ v ∈ d.vertices, ∃ x y, v.2 = (.real x, .real y)
  start : ∀ p, d.start = some p → ∃ x y, p = (.real x, .real y)

variable {d d' : Draft}

theorem OfDoubles.moveTo (doubles : d.OfDoubles) (x y : Float) :
    (d.moveTo (.real x) (.real y)).OfDoubles := by
  constructor
  · intro v member
    rcases List.mem_append.mp member with earlier | last
    · exact doubles.vertices v earlier
    · exact ⟨x, y, by rw [List.mem_singleton.mp last]⟩
  · rintro p ⟨⟩
    exact ⟨x, y, rfl⟩

theorem OfDoubles.goTo (doubles : d.OfDoubles) (x y : Float) :
    (d.goTo (.real x) (.real y)).OfDoubles := by
  unfold Draft.goTo
  split
  · exact doubles.moveTo x y
  · refine ⟨?_, doubles.start⟩
    intro v member
    rcases List.mem_append.mp member with earlier | last
    · exact doubles.vertices v earlier
    · exact ⟨x, y, by rw [List.mem_singleton.mp last]⟩

theorem OfDoubles.close (doubles : d.OfDoubles) : d.close.OfDoubles := by
  unfold Draft.close
  split
  · rename_i x y start
    refine ⟨?_, doubles.start⟩
    intro v member
    rcases List.mem_append.mp member with earlier | last
    · exact doubles.vertices v earlier
    · rw [List.mem_singleton.mp last]
      exact doubles.start _ start
  · exact doubles

theorem OfDoubles.add (doubles : d.OfDoubles) {s : PathStep Float}
    (added : d.add (s.map .real) = .ok d') : d'.OfDoubles := by
  cases s with
  | move x y =>
      obtain rfl := Except.ok.inj added
      exact doubles.moveTo x y
  | line x y =>
      obtain rfl := Except.ok.inj added
      exact doubles.goTo x y
  | arc x y radius start stop anticlockwise =>
      obtain ⟨points, -, rest⟩ := Result.bind_eq_ok_iff.mp added
      obtain rfl := Except.ok.inj rest
      clear added rest
      induction points generalizing d with
      | nil => exact doubles
      | cons p points ih => exact ih (doubles.goTo p.x p.y)
  | close =>
      obtain rfl := Except.ok.inj added
      exact doubles.close
  | other =>
      obtain rfl := Except.ok.inj added
      exact doubles

theorem OfDoubles.foldlM (doubles : d.OfDoubles) {path : Path Float}
    (made : path.toNums.foldlM Draft.add d = .ok d') : d'.OfDoubles := by
  induction path generalizing d with
  | nil =>
      obtain rfl := Except.ok.inj made
      exact doubles
  | cons s path ih =>
      obtain ⟨middle, added, rest⟩ := Result.bind_eq_ok_iff.mp made
      exact ih (doubles.add added) rest

end Draft

end Outline

end Straightedge
