import Straightedge.Drag.Desk

/-!
# Runs at a desk

An event that succeeds does one of a few things: it decides the hold, leaves
everything as it is, or draws a frame, of the scene as it is or with the held
point moved. A step hands its event to one controller and leaves the others alone.

A run keeps its history, the steps with the desks they were made at. What every
moment of a history preserves is preserved by the run.
-/

namespace Straightedge

namespace Controller

variable {σ : Type} {c c' c'' : Controller σ}

/-- What no event changes about a controller. -/
structure SameSetup (c c' : Controller σ) : Prop where
  lock : c'.lock = c.lock
  style : c'.style = c.style
  options : c'.options = c.options
  notifies : c'.notifies = c.notifies

theorem SameSetup.trans (first : c.SameSetup c') (rest : c'.SameSetup c'') : c.SameSetup c'' :=
  ⟨rest.lock.trans first.lock, rest.style.trans first.style, rest.options.trans first.options,
    rest.notifies.trans first.notifies⟩

theorem sameSetup_moveHeld (c : Controller σ) (x y : Num) : c.SameSetup (c.moveHeld x y) := by
  unfold moveHeld
  split <;> exact ⟨rfl, rfl, rfl, rfl⟩

variable [Surface σ]

theorem render_eq_done_iff :
    c.render = ⟨c', none⟩ ↔
      c.stage.render c.style c.options = ⟨c'.stage, none⟩ ∧ c' = { c with stage := c'.stage } := by
  unfold render Outcome.map
  obtain ⟨stage, fault⟩ := c.stage.render c.style c.options
  constructor
  · intro done
    obtain ⟨rfl, rfl⟩ := Outcome.mk.inj done
    exact ⟨rfl, rfl⟩
  · rintro ⟨done, same⟩
    obtain ⟨rfl, rfl⟩ := Outcome.mk.inj done
    exact congrArg (Outcome.mk · none) same.symm

/-- The ways in which an event can succeed. -/
inductive Handles (c : Controller σ) (locked : Bool) : PointerEvent → Response σ → Prop
  | lockedPress {x y : Num} (engaged : locked = true) :
      Handles c locked (.down x y) ⟨c, .ok (.hit none), []⟩
  | press {x y : Num} {found : Option Nat} (free : locked = false)
      (hit : c.scene.hit x y c.style.hitRadius = .ok found) :
      Handles c locked (.down x y) ⟨{ c with held := found.map .member }, .ok (.hit found), []⟩
  | still {x y : Num} (idle : c.heldId? = none ∨ locked = true) :
      Handles c locked (.move x y) ⟨c, .ok (.moved false), []⟩
  | drag {x y : Num} {id : String} {c' : Controller σ} (held : c.heldId? = some id)
      (free : locked = false) (drawn : (c.moveHeld x y).render = ⟨c', none⟩) :
      Handles c locked (.move x y) ⟨c', .ok (.moved true), if c.notifies then [id] else []⟩
  | up : Handles c locked .up ⟨c.letGo, .ok .done, []⟩
  | leave : Handles c locked .leave ⟨c.letGo, .ok .done, []⟩
  | draw {c' : Controller σ} (drawn : c.render = ⟨c', none⟩) :
      Handles c locked .draw ⟨c', .ok .done, []⟩

theorem handles_press {locked : Bool} {x y : Num} {reply : Reply}
    (succeeds : (c.press locked x y).reply = .ok reply) :
    c.Handles locked (.down x y) (c.press locked x y) := by
  unfold press at succeeds ⊢
  split
  · rename_i engaged
    exact .lockedPress engaged
  · rename_i free
    rw [if_neg free] at succeeds
    split
    · rename_i found hit
      exact .press (Bool.not_eq_true _ ▸ free) hit
    · rename_i f failed
      rw [failed] at succeeds
      cases succeeds

theorem handles_drag {locked : Bool} {x y : Num} {reply : Reply}
    (succeeds : (c.drag locked x y).reply = .ok reply) :
    c.Handles locked (.move x y) (c.drag locked x y) := by
  unfold drag at succeeds ⊢
  split
  · rename_i nothing
    exact .still (.inl nothing)
  · rename_i id held
    rw [held] at succeeds
    split
    · rename_i engaged
      exact .still (.inr engaged)
    · rename_i free
      simp only [if_neg free] at succeeds ⊢
      rcases drawn : (c.moveHeld x y).render with ⟨c', _ | f⟩
      · exact .drag held (Bool.not_eq_true _ ▸ free) drawn
      · simp only [drawn] at succeeds
        cases succeeds

theorem handles_of_ok {locked : Bool} {event : PointerEvent} {reply : Reply}
    (succeeds : (c.handle locked event).reply = .ok reply) :
    c.Handles locked event (c.handle locked event) := by
  cases event with
  | down x y => exact handles_press succeeds
  | move x y => exact handles_drag succeeds
  | up => exact .up
  | leave => exact .leave
  | draw =>
      simp only [handle] at succeeds ⊢
      rcases drawn : c.render with ⟨c', _ | f⟩
      · exact .draw drawn
      · simp only [drawn, Option.elim] at succeeds
        cases succeeds

theorem sameSetup_of_render (drawn : c.render = ⟨c', none⟩) : c.SameSetup c' := by
  rw [(render_eq_done_iff.mp drawn).2]
  exact ⟨rfl, rfl, rfl, rfl⟩

theorem Handles.sameSetup {locked : Bool} {event : PointerEvent} {r : Response σ}
    (handles : c.Handles locked event r) : c.SameSetup r.controller := by
  cases handles with
  | drag held free drawn =>
      exact (sameSetup_moveHeld c _ _).trans (sameSetup_of_render drawn)
  | draw drawn => exact sameSetup_of_render drawn
  | _ => exact ⟨rfl, rfl, rfl, rfl⟩

end Controller

namespace Desk

variable {σ : Type} [Surface σ] {d : Desk σ} {i : Nat}

theorem step_of_none {event : PointerEvent} (nobody : d.controllers[i]? = none) :
    d.step (.pointer i event) = ⟨d, .ok .done, []⟩ := by
  simp only [step, nobody]

theorem step_of_some {c : Controller σ} (there : d.controllers[i]? = some c)
    (event : PointerEvent) :
    d.step (.pointer i event) =
      let r := c.handle (d.locks.engaged c.lock) event
      ⟨d.setController i r.controller, r.reply, r.changed⟩ := by
  simp only [step, there]

theorem step_setStyle_of_ok {style style' : Style} (checked : style.checked = .ok style')
    (d : Desk σ) : d.step (.setStyle style) = ⟨{ d with style := style' }, .ok .done, []⟩ := by
  simp only [step, setStyle, checked]
  rfl

theorem step_setStyle_of_error {style : Style} {f : Fault} (checked : style.checked = .error f)
    (d : Desk σ) : d.step (.setStyle style) = ⟨d, .error f, []⟩ := by
  simp only [step, setStyle, checked]
  rfl

/-- No step adds or takes away a controller. -/
theorem length_step (d : Desk σ) (s : Step) :
    (d.step s).desk.controllers.length = d.controllers.length := by
  cases s with
  | pointer i event =>
      cases there : d.controllers[i]? with
      | none => rw [step_of_none there]
      | some c =>
          rw [step_of_some there]
          exact List.length_set
  | toggle | setGate => rfl
  | setStyle style =>
      cases checked : style.checked with
      | error f => rw [step_setStyle_of_error checked]
      | ok style' => rw [step_setStyle_of_ok checked]

end Desk

/-- A step and the desk at which it is made. -/
structure Moment (σ : Type) where
  desk : Desk σ
  step : Step

namespace Moment

variable {σ : Type} [Surface σ] {m : Moment σ}

/-- What the step leaves. -/
def result (m : Moment σ) : StepResult σ := m.desk.step m.step

/-- The step is not cut short. -/
def Succeeds (m : Moment σ) : Prop := ∃ reply, m.result.reply = .ok reply

instance (m : Moment σ) : Decidable m.Succeeds :=
  decidable_of_iff (m.result.reply.isOk = true) <| by
    unfold Succeeds
    cases m.result.reply <;> simp [Except.isOk, Except.toBool]

/-- A step that succeeds is an event that one controller handles, or concerns no controller. -/
theorem Succeeds.cases (succeeds : m.Succeeds) :
    (∃ i event c r, m.step = .pointer i event ∧ m.desk.controllers[i]? = some c ∧
      c.Handles (m.desk.locks.engaged c.lock) event r ∧
      m.result = ⟨m.desk.setController i r.controller, r.reply, r.changed⟩) ∨
    (∀ i event c, m.step = .pointer i event → m.desk.controllers[i]? ≠ some c) ∧
      m.result.desk.controllers = m.desk.controllers ∧
      m.result.reply = .ok .done ∧ m.result.changed = [] := by
  obtain ⟨d, step⟩ := m
  obtain ⟨reply, replied⟩ := succeeds
  change (d.step step).reply = .ok reply at replied
  cases step with
  | pointer i event =>
      cases there : d.controllers[i]? with
      | none =>
          right
          have nothing : d.step (.pointer i event) = ⟨d, .ok .done, []⟩ := Desk.step_of_none there
          refine ⟨?_, ?_⟩
          · rintro _ _ c ⟨⟩ found
            exact Option.some_ne_none c (found.symm.trans there)
          · simp only [result, nothing, and_self]
      | some c =>
          left
          have step := Desk.step_of_some there event
          rw [step] at replied
          exact ⟨i, event, c, _, rfl, there, Controller.handles_of_ok replied, step⟩
  | toggle i => exact .inr ⟨by rintro _ _ _ ⟨⟩, rfl, rfl, rfl⟩
  | setGate i locked => exact .inr ⟨by rintro _ _ _ ⟨⟩, rfl, rfl, rfl⟩
  | setStyle style =>
      cases checked : style.checked with
      | error f =>
          rw [Desk.step_setStyle_of_error checked] at replied
          cases replied
      | ok style' =>
          refine .inr ⟨by rintro _ _ _ ⟨⟩, ?_⟩
          simp only [result, Desk.step_setStyle_of_ok checked, and_self]

/-- What a step that succeeds means for one controller: it handles an event, or is left alone. -/
theorem Succeeds.at (succeeds : m.Succeeds) {i : Nat} {c : Controller σ}
    (there : m.desk.controllers[i]? = some c) :
    (∃ event r, m.step = .pointer i event ∧
      c.Handles (m.desk.locks.engaged c.lock) event r ∧
      m.result = ⟨m.desk.setController i r.controller, r.reply, r.changed⟩ ∧
      m.result.desk.controllers[i]? = some r.controller) ∨
    (∀ event, m.step ≠ .pointer i event) ∧ m.result.desk.controllers[i]? = some c := by
  obtain ⟨k, event, c', r, step, there', handles, result⟩ | ⟨nobody, same, -, -⟩ := succeeds.cases
  · by_cases here : k = i
    · subst here
      obtain rfl := Option.some.inj (there.symm.trans there')
      obtain ⟨inRange, -⟩ := List.getElem?_eq_some_iff.mp there
      refine .inl ⟨event, r, step, handles, result, ?_⟩
      rw [result]
      exact List.getElem?_set_self inRange
    · refine .inr ⟨?_, ?_⟩
      · intro event' step'
        exact here (Step.pointer.inj (step.symm.trans step')).1
      · rw [result]
        exact (List.getElem?_set_ne here).trans there
  · refine .inr ⟨?_, same ▸ there⟩
    intro event step
    exact nobody i event c step there

/-- A step that succeeds and is an event for a controller is handled by it. -/
theorem Succeeds.handles (succeeds : m.Succeeds) {i : Nat} {c : Controller σ}
    {event : PointerEvent} (step : m.step = .pointer i event)
    (there : m.desk.controllers[i]? = some c) :
    ∃ r, c.Handles (m.desk.locks.engaged c.lock) event r ∧ m.result.reply = r.reply ∧
      m.result.desk.controllers[i]? = some r.controller := by
  obtain ⟨event', r, step', handles, result, now⟩ | ⟨other, -⟩ := succeeds.at there
  · obtain ⟨-, rfl⟩ := Step.pointer.inj (step.symm.trans step')
    exact ⟨r, handles, congrArg StepResult.reply result, now⟩
  · exact absurd step (other event)

theorem length_result (m : Moment σ) :
    m.result.desk.controllers.length = m.desk.controllers.length :=
  Desk.length_step m.desk m.step

end Moment

namespace Desk

variable {σ : Type} [Surface σ]

/-- The steps of a run, each with the desk it is made at. -/
def history (d : Desk σ) : List Step → List (Moment σ)
  | [] => []
  | s :: rest => ⟨d, s⟩ :: (d.step s).desk.history rest

/-- No step of a run is cut short. -/
def Smooth (d : Desk σ) (steps : List Step) : Prop := ∀ m ∈ d.history steps, m.Succeeds

instance (d : Desk σ) (steps : List Step) : Decidable (d.Smooth steps) :=
  inferInstanceAs (Decidable (∀ m ∈ d.history steps, m.Succeeds))

variable {d : Desk σ} {steps : List Step} {P : Desk σ → Prop}

theorem history_append (d : Desk σ) (first rest : List Step) :
    d.history (first ++ rest) = d.history first ++ (d.run first).history rest := by
  induction first generalizing d with
  | nil => rfl
  | cons s first ih => exact congrArg (_ :: ·) (ih (d.step s).desk)

theorem Smooth.of_prefix (smooth : d.Smooth steps) {taken : List Step} (early : taken <+: steps) :
    d.Smooth taken := by
  obtain ⟨rest, rfl⟩ := early
  intro m member
  apply smooth
  rw [history_append]
  exact List.mem_append_left _ member

/-- What every moment of a run preserves, the run preserves. -/
theorem run_keeps (start : P d) (each : ∀ m ∈ d.history steps, P m.desk → P m.result.desk) :
    P (d.run steps) := by
  induction steps generalizing d with
  | nil => exact start
  | cons s steps ih =>
      obtain ⟨first, others⟩ := List.forall_mem_cons.mp each
      exact ih (first start) others

end Desk

end Straightedge
