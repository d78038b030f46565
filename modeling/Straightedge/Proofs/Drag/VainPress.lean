import Straightedge.Proofs.Drag.History
import Straightedge.Proofs.Drag.Seclusion

/-!
# Presses that report nothing

A press reports that it took hold of nothing for one of two reasons: it looked and
found nothing, which ends an earlier hold, or its lock was engaged and it did not
look, which leaves an earlier hold as it is. A controller that holds nothing stays
idle until a press reports a point, whatever is done with its lock. So nothing moves
after a press that reports nothing, unless it was locked out during a hold.
-/

namespace Straightedge

namespace Controller

variable {σ : Type} {c : Controller σ} {locked : Bool} {event : PointerEvent} {x y : Num}

/-- A press that does not report a point leaves a controller that holds nothing as it is. -/
theorem press_of_idle (nothing : c.held = none)
    (missed : ∀ j, (c.press locked x y).reply ≠ .ok (.hit (some j))) :
    (c.press locked x y).controller = c := by
  rw [press] at missed ⊢
  split
  · rfl
  rename_i free
  rw [if_neg free] at missed
  split
  · rename_i found hit
    rw [hit] at missed
    cases found with
    | none => rw [Option.map_none, ← nothing]
    | some j => exact absurd rfl (missed j)
  · rfl

variable [Surface σ]

theorem drag_of_idle (nothing : c.held = none) :
    c.drag locked x y = ⟨c, .ok (.moved false), []⟩ := by
  have idle : c.heldId? = none := by rw [heldId?, nothing]
  rw [drag, idle]

/-- What an event leaves of a controller that holds nothing and takes hold of nothing. -/
structure Idles (c : Controller σ) (event : PointerEvent) (c' : Controller σ) : Prop where
  held : c'.held = none
  scene : c'.scene.clearDerived = c.scene.clearDerived
  stage : event ≠ .draw → c'.stage = c.stage

/-- A controller that holds nothing moves nothing, whatever its lock is and whether or not the
event is cut short. -/
theorem idles_handle (nothing : c.held = none)
    (noCatch : ∀ x y j, event = .down x y → (c.handle locked event).reply ≠ .ok (.hit (some j))) :
    c.Idles event (c.handle locked event).controller := by
  cases event with
  | down x y =>
      rw [handle, press_of_idle nothing fun j => noCatch x y j rfl]
      exact ⟨nothing, rfl, fun _ => rfl⟩
  | move x y =>
      rw [handle, drag_of_idle nothing]
      exact ⟨nothing, rfl, fun _ => rfl⟩
  | up | leave => exact ⟨rfl, rfl, fun _ => rfl⟩
  | draw =>
      exact ⟨nothing, Stage.clearDerived_render c.style c.options c.stage, fun no => absurd rfl no⟩

end Controller

namespace Moment

variable {σ : Type} [Surface σ] {m : Moment σ} {i : Nat} {c : Controller σ}

/-- A press over a controller reports that it took hold of a point. -/
def Catches (m : Moment σ) (i j : Nat) : Prop :=
  ∃ x y, m.step = .pointer i (.down x y) ∧ m.result.reply = .ok (.hit (some j))

/-- A move over a controller reports that it moved nothing, and nobody is told of a change. -/
def KeepsStill (m : Moment σ) (i : Nat) : Prop :=
  ∀ x y, m.step = .pointer i (.move x y) →
    m.result.reply = .ok (.moved false) ∧ m.result.changed = []

/-- What a step leaves of a controller that holds nothing and takes hold of nothing. -/
structure LeavesIdle (m : Moment σ) (i : Nat) (c c' : Controller σ) : Prop where
  now : m.result.desk.controllers[i]? = some c'
  held : c'.held = none
  scene : c'.scene.clearDerived = c.scene.clearDerived
  stage : m.step ≠ .pointer i .draw → c'.stage = c.stage
  still : m.KeepsStill i

/-- A step that leaves a controller alone leaves it idle. -/
theorem leavesIdle_self (nothing : c.held = none) (now : m.result.desk.controllers[i]? = some c)
    (other : ∀ event, m.step ≠ .pointer i event) : m.LeavesIdle i c c where
  now := now
  held := nothing
  scene := rfl
  stage _ := rfl
  still x y move := absurd move (other (.move x y))

/-- The step lemma: a controller that holds nothing goes on to hold nothing, and moves nothing, in
any step in which it does not take hold of a point. -/
theorem exists_leavesIdle (there : m.desk.controllers[i]? = some c) (nothing : c.held = none)
    (noCatch : ∀ j, ¬m.Catches i j) : ∃ c', m.LeavesIdle i c c' := by
  obtain ⟨d, step⟩ := m
  cases step with
  | pointer k event =>
      by_cases here : k = i
      · subst here
        have result : Moment.result ⟨d, .pointer k event⟩ = _ := Desk.step_of_some there event
        have idles : c.Idles event (c.handle (d.locks.engaged c.lock) event).controller := by
          apply Controller.idles_handle nothing
          rintro x y j rfl caught
          exact noCatch j ⟨x, y, rfl, by rw [result]; exact caught⟩
        obtain ⟨inRange, -⟩ := List.getElem?_eq_some_iff.mp there
        refine ⟨_, ?_, idles.held, idles.scene, ?_, ?_⟩
        · rw [result]
          exact List.getElem?_set_self inRange
        · intro noDraw
          exact idles.stage fun draw => noDraw (congrArg (Step.pointer k) draw)
        · rintro x y move
          obtain ⟨-, rfl⟩ := Step.pointer.inj move
          rw [result, Controller.handle, Controller.drag_of_idle nothing]
          exact ⟨rfl, rfl⟩
      · have now := ((Desk.step_pointer d k event).2.2 i here).trans there
        exact ⟨c, leavesIdle_self nothing now fun _ own => here (Step.pointer.inj own).1⟩
  | toggle | setGate => exact ⟨c, leavesIdle_self nothing there (by rintro _ ⟨⟩)⟩
  | setStyle style =>
      refine ⟨c, leavesIdle_self nothing ?_ (by rintro _ ⟨⟩)⟩
      cases checked : style.checked with
      | error f => rw [result, Desk.step_setStyle_of_error checked, there]
      | ok style' => rw [result, Desk.step_setStyle_of_ok checked, there]

end Moment

namespace Desk

variable {σ : Type} [Surface σ] {d : Desk σ} {i : Nat} {c : Controller σ} {x y : Num}

/-- All through a run a controller holds nothing and no move over it does anything. All that the
run changes about its scene is derived, and without a frame being asked for there is no change. -/
structure StaysIdle (d : Desk σ) (i : Nat) (scene : Scene) (steps : List Step) : Prop where
  moments : ∀ m ∈ d.history steps, m.desk.Holds i none ∧ m.KeepsStill i
  left : ∃ c, (d.run steps).controllers[i]? = some c ∧ c.held = none ∧
    c.scene.clearDerived = scene.clearDerived ∧ (.pointer i .draw ∉ steps → c.scene = scene)

/-- No press of a run reports that it took hold of a point over a controller. -/
def NoCatch (d : Desk σ) (i : Nat) (steps : List Step) : Prop :=
  ∀ m ∈ d.history steps, ∀ j, ¬m.Catches i j

/-- The run lemma: a controller that holds nothing stays idle until it takes hold of a point. -/
theorem staysIdle {steps : List Step} (there : d.controllers[i]? = some c)
    (nothing : c.held = none) (noCatch : d.NoCatch i steps) : d.StaysIdle i c.scene steps := by
  induction steps generalizing d c with
  | nil =>
      exact ⟨fun _ member => absurd member List.not_mem_nil, c, there, nothing, rfl, fun _ => rfl⟩
  | cons s steps ih =>
      obtain ⟨first, others⟩ := List.forall_mem_cons.mp noCatch
      obtain ⟨c', idle⟩ := Moment.exists_leavesIdle there nothing first
      obtain ⟨moments, c'', now, held, derives, same⟩ := ih idle.now idle.held others
      refine ⟨List.forall_mem_cons.mpr ⟨⟨⟨c, there, nothing⟩, idle.still⟩, moments⟩, c'', now, held,
        derives.trans idle.scene, ?_⟩
      intro noDraw
      have later := same (List.not_mem_of_not_mem_cons noDraw)
      exact later.trans (congrArg Stage.scene (idle.stage (List.ne_of_not_mem_cons noDraw).symm))

/-- What a press that reports nothing leaves: everything as it is if its lock was engaged, and
otherwise no hold. -/
theorem step_of_vain (there : d.controllers[i]? = some c)
    (vain : (d.step (.pointer i (.down x y))).reply = .ok (.hit none)) :
    (d.locks.engaged c.lock = true ∧ (d.step (.pointer i (.down x y))).desk = d) ∨
    (d.locks.engaged c.lock = false ∧
      (d.step (.pointer i (.down x y))).desk = d.setController i c.letGo) := by
  rw [step_of_some there (.down x y)] at vain ⊢
  have handles := Controller.handles_of_ok vain
  generalize c.handle (d.locks.engaged c.lock) (.down x y) = r at vain handles ⊢
  cases handles with
  | lockedPress engaged =>
      obtain ⟨inRange, rfl⟩ := List.getElem?_eq_some_iff.mp there
      refine .inl ⟨engaged, ?_⟩
      change d.setController i d.controllers[i] = d
      rw [setController, List.set_getElem_self]
  | press free hit =>
      obtain rfl := Reply.hit.inj (Except.ok.inj vain)
      exact .inr ⟨free, rfl⟩

/-- A press that reports nothing while its lock is engaged changes nothing at all. After a press
that reports nothing, whatever is done up to the next press that reports a point, the controller
holds nothing, no move does anything, and no coordinates change but derived ones: unless the press
was locked out while something was held, and then the hold goes on. -/
theorem idle_after_vain_press (there : d.controllers[i]? = some c)
    (vain : (d.step (.pointer i (.down x y))).reply = .ok (.hit none)) :
    let pressed := (d.step (.pointer i (.down x y))).desk
    (d.locks.engaged c.lock = true → pressed = d) ∧
      ((∀ steps, pressed.NoCatch i steps → pressed.StaysIdle i c.scene steps) ↔
        d.locks.engaged c.lock = false ∨ c.held = none) := by
  intro pressed
  obtain ⟨engaged, same⟩ | ⟨free, same⟩ := step_of_vain there vain
  · have unchanged : pressed = d := same
    refine ⟨fun _ => unchanged, ?_⟩
    rw [unchanged]
    constructor
    · intro stays
      obtain ⟨-, c', there', nothing, -⟩ := stays [] fun _ member => absurd member List.not_mem_nil
      obtain rfl := Option.some.inj (there.symm.trans there')
      exact .inr nothing
    · rintro (free | nothing) steps noCatch
      · exact absurd (engaged.symm.trans free) nofun
      · exact staysIdle there nothing noCatch
  · refine ⟨fun engaged => absurd (engaged.symm.trans free) nofun, ?_⟩
    have now : pressed.controllers[i]? = some c.letGo := by
      obtain ⟨inRange, -⟩ := List.getElem?_eq_some_iff.mp there
      have emptied : pressed = d.setController i c.letGo := same
      rw [emptied]
      exact List.getElem?_set_self inRange
    refine iff_of_true ?_ (.inl free)
    intro steps noCatch
    exact staysIdle (c := c.letGo) now rfl noCatch

/-- A press beside the held point, and a press on it that is locked out. -/
theorem idle_after_vain_press_beside :
    let scene : Scene := ⟨[{ id := "A", shape := .point, values := .ofPoint 100 100 }]⟩
    let c : Controller Recording :=
      { stage := ⟨{}, scene⟩, lock := .switch 0, style := .default, held := some (.member 0) }
    let d : Desk Recording := { locks := ⟨[false], []⟩, controllers := [c] }
    let steps : List Step := [.pointer 0 (.move 150 150), .toggle 0, .pointer 0 (.down 100 100),
      .toggle 0, .pointer 0 (.move 150 150)]
    d.controllers[0]? = some c ∧
      (d.step (.pointer 0 (.down 300 300))).reply = .ok (.hit none) ∧
      (d.step (.pointer 0 (.down 300 300))).desk.StaysIdle 0 scene steps := by
  intro scene c d steps
  have vain : (d.step (.pointer 0 (.down 300 300))).reply = .ok (.hit none) := by decide +kernel
  obtain ⟨-, idle⟩ := idle_after_vain_press (i := 0) (c := c) rfl vain
  have quiet : ∀ m ∈ (d.step (.pointer 0 (.down 300 300))).desk.history steps,
      m.result.reply ∈ [.ok (.moved false), .ok .done, .ok (.hit none)] := by
    decide +kernel
  refine ⟨rfl, vain, idle.mpr (.inl rfl) steps ?_⟩
  rintro m member j ⟨x, y, -, caught⟩
  have reply := quiet m member
  rw [caught] at reply
  simp at reply

/-- A press that is locked out while a point is held reports nothing, and the point is moved once
the lock is open again. -/
theorem vain_press_during_hold :
    let a : Num → Entity := fun x => { id := "A", shape := .point, values := .ofPoint x x }
    let c : Controller Recording :=
      { stage := ⟨{}, ⟨[a 100]⟩⟩, lock := .switch 0, style := .default }
    let d : Desk Recording := { locks := ⟨[false], []⟩, controllers := [c] }
    let pressed := (d.run [.pointer 0 (.down 100 100), .toggle 0]).step (.pointer 0 (.down 300 300))
    let moved := (pressed.desk.step (.toggle 0)).desk.step (.pointer 0 (.move 150 150))
    pressed.reply = .ok (.hit none) ∧
      (pressed.desk.controllers[0]?).map (fun c => (c.held, c.scene.entities)) =
        some (some (.member 0), [a 100]) ∧
      moved.reply = .ok (.moved true) ∧
      (moved.desk.controllers[0]?).map (fun c => (c.held, c.scene.entities)) =
        some (some (.member 0), [a 150]) := by
  decide +kernel

end Desk

end Straightedge
