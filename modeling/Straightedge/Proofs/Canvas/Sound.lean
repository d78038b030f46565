import Straightedge.Geometry.Vec
import Straightedge.Proofs.Canvas.Determined
import Straightedge.Proofs.Result

/-!
# Sound drawings

A drawing fails in allowed ways only if it ends in no other fault and a recording has
doubles for all the numbers of its calls. On any recording whose pen has a usable
line width, a fresh one in particular, no call of it fails, so nothing but these
faults occurs. This composes: a continuation need only be looked at for the result
that it is given. A drawing is sound if it does not fail at all.
-/

namespace Straightedge

namespace Call

/-- A recording has doubles for the numbers of a call, which clears nothing. -/
def Fits : Call → Prop
  | .pen (.step s) => ∃ t, s.toFloats = .ok t
  | .pen (.lineWidth width) => ∃ x, width.toFloat = .ok x
  | .text _ x y => (∃ a, x.toFloat = .ok a) ∧ ∃ b, y.toFloat = .ok b
  | .clear .. => False
  | _ => True

end Call

namespace Recording

/-- The line width of the pen has a double. -/
def Ready (r : Recording) : Prop := ∃ x, r.pen.lineWidth.toFloat = .ok x

variable {r : Recording}

theorem perform_of_fits {c : Call} (ready : r.Ready) (fits : c.Fits) :
    (r.perform c).fault = none ∧ (r.perform c).state.Ready := by
  cases c with
  | clear x y width height => exact fits.elim
  | stroke =>
      obtain ⟨x, width⟩ := ready
      have made : strokeEntry r.pen = .ok (.stroke r.pen.strokeColor x r.pen.path) := by
        rw [strokeEntry, width]
        rfl
      rw [perform, made]
      exact ⟨rfl, x, width⟩
  | fill => exact ⟨rfl, ready⟩
  | text text x y =>
      obtain ⟨⟨a, atX⟩, b, atY⟩ := fits
      have made : textEntry r.pen text x y =
          .ok (.text text a b r.pen.fillColor r.pen.font r.pen.align r.pen.baseline) := by
        rw [textEntry, atX, atY]
        rfl
      rw [perform, made]
      exact ⟨rfl, ready⟩
  | pen c =>
      cases c with
      | step s =>
          obtain ⟨t, taken⟩ := fits
          simp only [perform, Pen.perform, taken, Outcome.map]
          exact ⟨trivial, ready⟩
      | lineWidth width => exact ⟨rfl, fits⟩
      | beginPath | strokeColor | fillColor | fillAsStroke | font | align | baseline =>
          exact ⟨rfl, ready⟩

theorem performAll_of_fits {calls : List Call} (ready : r.Ready) (fits : ∀ c ∈ calls, c.Fits) :
    (Surface.performAll r calls).fault = none := by
  induction calls generalizing r with
  | nil => rfl
  | cons c calls ih =>
      obtain ⟨first, others⟩ := List.forall_mem_cons.mp fits
      obtain ⟨succeeds, ready⟩ := perform_of_fits ready first
      have performs : (Surface.perform r c).fault = none := succeeds
      rw [Surface.performAll_cons, Outcome.andThen_of_none performs]
      exact ih ready others

end Recording

namespace Drawing

variable {α β : Type} {d : Drawing α}

/-- A drawing comes to its end, and recordings have doubles for its calls. -/
structure Sound (d : Drawing α) : Prop where
  ends : ∃ a, d.result = .ok a
  fits : ∀ c ∈ d.calls, c.Fits

/-- A drawing ends in allowed faults only, and recordings have doubles for its calls. -/
structure FailsOnly (allowed : Fault → Prop) (d : Drawing α) : Prop where
  result : Result.FailsOnly allowed d.result
  fits : ∀ c ∈ d.calls, c.Fits

variable {allowed : Fault → Prop}

theorem sound_iff : d.Sound ↔ d.FailsOnly fun _ => False :=
  ⟨fun sound => ⟨Result.failsOnly_false_iff.mpr sound.ends, sound.fits⟩,
    fun never => ⟨Result.failsOnly_false_iff.mp never.result, never.fits⟩⟩

theorem FailsOnly.on (h : d.FailsOnly allowed) {r : Recording} (ready : r.Ready) :
    (d.on r).FailsOnly fun _ => allowed := by
  have performs := Recording.performAll_of_fits ready h.fits
  rw [Drawing.on, Outcome.andThen_of_none performs]
  intro f failed
  change d.fault? = some f at failed
  unfold fault? at failed
  cases result : d.result with
  | ok a =>
      rw [result] at failed
      cases failed
  | error f' =>
      rw [result] at failed
      obtain rfl := Option.some.inj failed
      exact h.result f' result

theorem Sound.fault_eq_none (sound : d.Sound) {r : Recording} (ready : r.Ready) :
    (d.on r).fault = none :=
  Outcome.failsOnly_false_iff.mp ((sound_iff.mp sound).on ready)

theorem failsOnly_pure (a : α) : (pure a : Drawing α).FailsOnly allowed :=
  ⟨Result.failsOnly_of_ok ⟨a, rfl⟩, fun _ member => absurd member List.not_mem_nil⟩

theorem failsOnly_lift {result : Except Fault α} (fails : Result.FailsOnly allowed result) :
    (liftM result : Drawing α).FailsOnly allowed :=
  ⟨fails, fun _ member => absurd member List.not_mem_nil⟩

theorem failsOnly_call {c : Call} (fits : c.Fits) : (call c).FailsOnly allowed :=
  ⟨Result.failsOnly_of_ok ⟨(), rfl⟩, List.forall_mem_singleton.mpr fits⟩

theorem failsOnly_pen {c : PenCall} (fits : (Call.pen c).Fits) : (pen c).FailsOnly allowed :=
  failsOnly_call fits

theorem FailsOnly.bind (first : d.FailsOnly allowed) {next : α → Drawing β}
    (rest : ∀ a, d.result = .ok a → (next a).FailsOnly allowed) :
    (d >>= next).FailsOnly allowed := by
  cases result : d.result with
  | error f =>
      have only : d >>= next = ⟨d.calls, .error f⟩ := bind_of_error result next
      rw [only]
      refine ⟨?_, first.fits⟩
      intro f' same
      obtain rfl := Except.error.inj same
      exact first.result f result
  | ok a =>
      have both : d >>= next = ⟨d.calls ++ (next a).calls, (next a).result⟩ :=
        bind_of_ok result next
      rw [both]
      exact ⟨(rest a result).result,
        List.forall_mem_append.mpr ⟨first.fits, (rest a result).fits⟩⟩

/-- What follows a call need not look at its result. -/
theorem FailsOnly.call_bind {c : Call} {next : Unit → Drawing β} (fits : c.Fits)
    (rest : (next ()).FailsOnly allowed) : (call c >>= next).FailsOnly allowed :=
  (failsOnly_call fits).bind fun _ _ => rest

theorem FailsOnly.pen_bind {c : PenCall} {next : Unit → Drawing β} (fits : (Call.pen c).Fits)
    (rest : (next ()).FailsOnly allowed) : (pen c >>= next).FailsOnly allowed :=
  FailsOnly.call_bind fits rest

theorem FailsOnly.lift_bind {result : Except Fault α} {next : α → Drawing β}
    (fails : Result.FailsOnly allowed result)
    (rest : ∀ a, result = .ok a → (next a).FailsOnly allowed) :
    (liftM result >>= next : Drawing β).FailsOnly allowed :=
  (failsOnly_lift fails).bind rest

theorem FailsOnly.made_bind {result : Except Fault α} {next : α → Drawing β}
    (made : ∃ a, result = .ok a) (rest : ∀ a, result = .ok a → (next a).FailsOnly allowed) :
    (liftM result >>= next : Drawing β).FailsOnly allowed :=
  FailsOnly.lift_bind (Result.failsOnly_of_ok made) rest

/-- A drawing that draws nothing unless something is found. -/
theorem FailsOnly.found_bind {found : Except Fault (Option α)} {next : Option α → Drawing Unit}
    (fails : Result.FailsOnly allowed found) (nothing : next none = pure ())
    (rest : ∀ a, found = .ok (some a) → (next (some a)).FailsOnly allowed) :
    (liftM found >>= next : Drawing Unit).FailsOnly allowed := by
  apply FailsOnly.lift_bind fails
  intro a result
  cases a with
  | none =>
      rw [nothing]
      exact failsOnly_pure ()
  | some a => exact rest a result

end Drawing

end Straightedge
