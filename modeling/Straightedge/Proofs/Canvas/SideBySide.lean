import Mathlib.Data.List.Forall2
import Straightedge.Proofs.Canvas.Determined

/-!
# Drawings made side by side

Two recordings that were the same once, and of which each got an entry when the other
did, are in step. Two drawings that are made side by side keep them in step and end
alike, so a relation between the entries of the calls is one between whole logs.
-/

namespace Straightedge

/-- Two recordings with the same pen that have grown in step from the same entries: what was added
to the one since corresponds to what was added to the other. -/
structure Recording.InStep (R : Entry → Entry → Prop) (earlier : List Entry)
    (r r' : Recording) : Prop where
  pen : r'.pen = r.pen
  entries : ∃ drawn drawn', r.entries = earlier ++ drawn ∧ r'.entries = earlier ++ drawn' ∧
    List.Forall₂ R drawn drawn'

namespace Recording

variable {R : Entry → Entry → Prop} {earlier : List Entry} {r r' : Recording}

theorem inStep_refl (R : Entry → Entry → Prop) (r : Recording) : InStep R r.entries r r :=
  ⟨rfl, [], [], by simp⟩

/-- Two entries that correspond are added to the one and the other. -/
theorem InStep.push (step : InStep R earlier r r') {entry entry' : Except Fault Entry}
    (made : (∃ f, entry = .error f ∧ entry' = .error f) ∨
      ∃ e e', entry = .ok e ∧ entry' = .ok e' ∧ R e e') :
    Outcome.Alike (InStep R earlier) (r.push entry) (r'.push entry') := by
  obtain ⟨drawn, drawn', here, there, related⟩ := step.entries
  obtain ⟨f, rfl, rfl⟩ | ⟨e, e', rfl, rfl, corresponds⟩ := made
  · exact ⟨rfl, step⟩
  · refine ⟨rfl, step.pen, drawn ++ [e], drawn' ++ [e'], ?_, ?_, ?_⟩
    · simp [Recording.push, here]
    · simp [Recording.push, there]
    · exact List.rel_append related (.cons corresponds .nil)

theorem InStep.perform_pen (step : InStep R earlier r r') (c : PenCall) :
    Outcome.Alike (InStep R earlier) (r.perform (.pen c)) (r'.perform (.pen c)) := by
  refine ⟨?_, ?_, step.entries⟩
  · simp only [Recording.perform, Outcome.map_fault, step.pen]
  · simp only [Recording.perform, Outcome.map_state, step.pen]

end Recording

namespace Drawing

variable {α β : Type} {S : Recording → Recording → Prop} {d d' : Drawing α}

/-- Two drawings with the same result that keep related recordings related, and end alike. -/
structure SideBySide (S : Recording → Recording → Prop) (d d' : Drawing α) : Prop where
  result : d.result = d'.result
  on : ∀ r r', S r r' → Outcome.Alike S (d.on r) (d'.on r')

theorem sideBySide_lift (result : Except Fault α) :
    (liftM result : Drawing α).SideBySide S (liftM result) := by
  refine ⟨rfl, ?_⟩
  intro r r' related
  exact ⟨rfl, related⟩

theorem sideBySide_pure (a : α) : (pure a : Drawing α).SideBySide S (pure a) :=
  sideBySide_lift (.ok a)

theorem sideBySide_call {c c' : Call}
    (performed : ∀ r r', S r r' → Outcome.Alike S (r.perform c) (r'.perform c')) :
    (call c).SideBySide S (call c') := by
  refine ⟨rfl, ?_⟩
  intro r r' related
  rw [on_call, on_call]
  exact performed r r' related

theorem result_bind (d : Drawing α) (next : α → Drawing β) :
    (d >>= next).result = d.result >>= fun a => (next a).result := by
  cases result : d.result with
  | error f => exact congrArg Drawing.result (bind_of_error result next)
  | ok a =>
      have both : d >>= next = ⟨d.calls ++ (next a).calls, (next a).result⟩ :=
        bind_of_ok result next
      rw [both]
      rfl

theorem SideBySide.bind (first : d.SideBySide S d') {next next' : α → Drawing β}
    (rest : ∀ a, (next a).SideBySide S (next' a)) : (d >>= next).SideBySide S (d' >>= next') := by
  constructor
  · simp only [result_bind, first.result, (rest _).result]
  · intro r r' related
    have here := first.on r r' related
    cases result : d.result with
    | error f =>
        rw [on_bind_of_error result, on_bind_of_error (first.result.symm.trans result)]
        exact here
    | ok a =>
        rw [on_bind_of_ok result, on_bind_of_ok (first.result.symm.trans result)]
        exact here.andThen (rest a).on

theorem SideBySide.lift_bind {result : Except Fault α} {next next' : α → Drawing β}
    (rest : ∀ a, (next a).SideBySide S (next' a)) :
    (liftM result >>= next : Drawing β).SideBySide S (liftM result >>= next') :=
  (sideBySide_lift result).bind rest

/-- Two drawings that draw nothing unless something is found. -/
theorem SideBySide.found_bind {found : Except Fault (Option α)}
    {next next' : Option α → Drawing Unit} (nothing : next none = pure ())
    (nothing' : next' none = pure ()) (rest : ∀ a, (next (some a)).SideBySide S (next' (some a))) :
    (liftM found >>= next : Drawing Unit).SideBySide S (liftM found >>= next') := by
  apply SideBySide.lift_bind
  intro found
  cases found with
  | none =>
      rw [nothing, nothing']
      exact sideBySide_pure ()
  | some a => exact rest a

/-- Drawings that are made side by side one by one are so one after the other. -/
theorem sideBySide_sequence {ds ds' : List (Drawing Unit)}
    (each : List.Forall₂ (SideBySide S) ds ds') : (sequence ds).SideBySide S (sequence ds') := by
  induction each with
  | nil => exact sideBySide_pure ()
  | cons first _ ih => exact first.bind fun _ => ih

end Drawing

end Straightedge
