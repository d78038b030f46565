import Straightedge.Proofs.Drag.Run
import Straightedge.Proofs.Entity.Values
import Straightedge.Proofs.Frame.Layers

/-!
# What a controller holds and moves

A hit test finds points only, and no event takes an entity out of its scene or
changes its kind, so what is held stays a point of the scene. A drag gives that
point the coordinates of the pointer and derives the midpoints anew; of the other
entities it changes nothing.
-/

namespace Straightedge

namespace Scene

variable {s t : Scene}

theorem exists_of_hitFrom {i j : Nat} {x y radius : Num} {es : List Entity}
    (hit : hitFrom i x y radius es = .ok (some j)) :
    ∃ k e, j = i + k ∧ es[k]? = some e ∧ e.kind = .point := by
  induction es generalizing i with
  | nil => cases hit
  | cons e es ih =>
      have later : hitFrom (i + 1) x y radius es = .ok (some j) →
          ∃ k e', j = i + k ∧ (e :: es)[k]? = some e' ∧ e'.kind = .point := by
        intro hit
        obtain ⟨k, e', rfl, position, isPoint⟩ := ih hit
        exact ⟨k + 1, e', by omega, position, isPoint⟩
      simp only [hitFrom] at hit
      split at hit
      · rename_i isPoint _
        obtain ⟨near, -, hit⟩ := Result.bind_eq_ok_iff.mp hit
        split at hit
        · obtain rfl : i = j := Option.some.inj (Result.pure_eq_ok_iff.mp hit)
          exact ⟨0, e, rfl, rfl, isPoint⟩
        · exact later hit
      · exact later hit

/-- A hit test finds points only. -/
theorem exists_of_hit {j : Nat} {x y radius : Num} (hit : s.hit x y radius = .ok (some j)) :
    ∃ e, s.entities[j]? = some e ∧ e.kind = .point := by
  obtain ⟨k, e, rfl, position, isPoint⟩ := exists_of_hitFrom hit
  exact ⟨e, by rwa [Nat.zero_add], isPoint⟩

end Scene

namespace Controller

variable {σ : Type} {c c' : Controller σ} {locked : Bool} {event : PointerEvent} {r : Response σ}

/-- Nothing is held but a point of the scene. -/
def Holding (c : Controller σ) : Prop :=
  ∀ held, c.held = some held →
    ∃ j e, held = .member j ∧ c.scene.entities[j]? = some e ∧ e.kind = .point

theorem holding_of_none (nothing : c.held = none) : c.Holding := by
  intro held some
  rw [nothing] at some
  cases some

theorem Holding.congr (holding : c.Holding) (held : c'.held = c.held)
    (same : c'.scene.clearDerived = c.scene.clearDerived) : c'.Holding := by
  intro h some
  obtain ⟨j, e, rfl, position, isPoint⟩ := holding h (held ▸ some)
  obtain ⟨v, position', -⟩ := Scene.getElem?_of_clearDerived_eq same position
  exact ⟨j, _, rfl, position', isPoint⟩

/-- In what is held there is an id exactly when something is held. -/
theorem Holding.heldId?_eq_none_iff (holding : c.Holding) : c.heldId? = none ↔ c.held = none := by
  constructor
  · intro nothing
    cases held : c.held with
    | none => rfl
    | some h =>
        obtain ⟨j, e, rfl, position, -⟩ := holding h held
        simp [heldId?, held, position] at nothing
  · intro nothing
    simp [heldId?, nothing]

variable [Surface σ]

/-- What a drag makes of a controller: the held point gets the coordinates of the pointer, the
midpoints are derived anew, and nothing else changes but the surface, on which the frame is
drawn. -/
structure Drags (c c' : Controller σ) (j : Nat) (x y : Num) : Prop where
  held : c.held = some (.member j)
  drawn : (c.moveHeld x y).render = ⟨c', none⟩
  rest : c' = { c with stage := c'.stage }
  size : c'.scene.size = c.scene.size
  point : ∃ e, c.scene.entities[j]? = some e ∧ e.kind = .point ∧
    c'.scene.entities[j]? = some (e.placed x y)
  others : ∀ (k : Nat) (e : Entity), k ≠ j → c.scene.entities[k]? = some e → e.kind ≠ .midpoint →
    c'.scene.entities[k]? = some e
  midpoints : ∀ (k : Nat) (e : Entity), c.scene.entities[k]? = some e → e.kind = .midpoint →
    ∃ v, c'.scene.entities[k]? = some { e with values := v }
  derived : (c.scene.modifyValues j fun v => v.setPoint x y).rederive c.options =
    ⟨c'.scene, none⟩

theorem Drags.holding {j : Nat} {x y : Num} (drags : c.Drags c' j x y) : c'.Holding := by
  intro h some
  obtain ⟨e, -, isPoint, position⟩ := drags.point
  have held : c'.held = c.held := by rw [drags.rest]
  obtain rfl := Option.some.inj (some.symm.trans (held.trans drags.held))
  exact ⟨j, _, rfl, position, isPoint⟩

theorem rederive_of_render (drawn : c.render = ⟨c', none⟩) :
    c.scene.rederive c.options = ⟨c'.scene, none⟩ := by
  have frame := (render_eq_done_iff.mp drawn).1
  have derived := Stage.scene_render (congrArg Outcome.fault frame)
  rwa [frame] at derived

/-- Drawing after the held point was moved is a drag. -/
theorem drags_of_render {j : Nat} {x y : Num} (holding : c.Holding)
    (held : c.held = some (.member j)) (drawn : (c.moveHeld x y).render = ⟨c', none⟩) :
    c.Drags c' j x y := by
  have moved : c.moveHeld x y =
      c.modifyScene fun s => s.modifyValues j fun v => v.setPoint x y := by
    simp only [moveHeld, held]
  have drawn' := moved ▸ drawn
  have derived := rederive_of_render drawn'
  obtain ⟨j', e, same, position, isPoint⟩ := holding _ held
  obtain rfl := Held.member.inj same
  have cleared : c'.scene.clearDerived =
      (c.scene.modifyValues j fun v => v.setPoint x y).clearDerived :=
    Scene.clearDerived_rederive derived
  have placed : (c.scene.modifyValues j fun v => v.setPoint x y).entities[j]? =
      some (e.placed x y) := by
    rw [Scene.entities_modifyValues, List.getElem?_modify_eq, position]
    rfl
  have elsewhere : ∀ k, k ≠ j →
      (c.scene.modifyValues j fun v => v.setPoint x y).entities[k]? = c.scene.entities[k]? := by
    intro k different
    exact List.getElem?_modify_ne _ _ different.symm
  refine ⟨held, drawn, ?_, ?_, ⟨e, position, isPoint, ?_⟩, ?_, ?_, derived⟩
  · rw [(render_eq_done_iff.mp drawn').2]
    rfl
  · exact (Scene.size_of_clearDerived_eq cleared).trans (Scene.size_modifyValues _ _ _)
  · obtain ⟨v, position', values⟩ := Scene.getElem?_of_clearDerived_eq cleared placed
    have independent : (e.placed x y).kind ≠ .midpoint := by simp [isPoint]
    rw [position', values independent]
  · intro k e' different position' independent
    rw [← elsewhere k different] at position'
    obtain ⟨v, now, values⟩ := Scene.getElem?_of_clearDerived_eq cleared position'
    rw [now, values independent]
  · intro k e' position' isMidpoint
    have different : k ≠ j := by
      rintro rfl
      obtain rfl := Option.some.inj (position.symm.trans position')
      simp [isPoint] at isMidpoint
    rw [← elsewhere k different] at position'
    obtain ⟨v, now, -⟩ := Scene.getElem?_of_clearDerived_eq cleared position'
    exact ⟨v, now⟩

/-- A move that reports success is a drag of the held point, made while the lock was open. -/
theorem Handles.drags (holding : c.Holding) (handles : c.Handles locked event r)
    (success : r.reply = .ok (.moved true)) :
    ∃ x y j, event = .move x y ∧ c.Drags r.controller j x y ∧ locked = false ∧
      ∃ e : Entity, c.scene.entities[j]? = some e ∧
        r.changed = if c.notifies then [e.id] else [] := by
  cases handles with
  | drag heldId free drawn =>
      rename_i x y id c'
      cases held : c.held with
      | none => simp [heldId?, held] at heldId
      | some h =>
          obtain ⟨j, e, rfl, position, -⟩ := holding h held
          refine ⟨x, y, j, rfl, drags_of_render holding held drawn, free, e, position, ?_⟩
          obtain rfl : e.id = id := by simpa [heldId?, held, position] using heldId
          rfl
  | _ => cases success

/-- Any other event leaves all but the derived values of the scene alone, and those as well unless
it draws a frame; nobody is told of a change. -/
theorem Handles.keeps (handles : c.Handles locked event r) (other : r.reply ≠ .ok (.moved true)) :
    r.controller.scene.clearDerived = c.scene.clearDerived ∧
      (event ≠ .draw → r.controller.stage = c.stage) ∧ r.changed = [] := by
  cases handles with
  | drag heldId free drawn => exact absurd rfl other
  | draw drawn =>
      refine ⟨Scene.clearDerived_rederive (rederive_of_render drawn), ?_, rfl⟩
      exact fun no => absurd rfl no
  | _ => exact ⟨rfl, fun _ => rfl, rfl⟩

theorem Handles.holding (holding : c.Holding) (handles : c.Handles locked event r) :
    r.controller.Holding := by
  by_cases success : r.reply = .ok (.moved true)
  · obtain ⟨x, y, j, -, drags, -, -⟩ := handles.drags holding success
    exact drags.holding
  · have kept := (handles.keeps success).1
    cases handles with
    | press free hit =>
        intro h some
        obtain ⟨j, rfl, rfl⟩ := Option.map_eq_some_iff.mp some
        obtain ⟨e, position, isPoint⟩ := Scene.exists_of_hit hit
        exact ⟨j, e, rfl, position, isPoint⟩
    | up => exact holding_of_none rfl
    | leave => exact holding_of_none rfl
    | drag => exact absurd rfl success
    | draw drawn =>
        have held := congrArg Controller.held (render_eq_done_iff.mp drawn).2
        exact holding.congr held kept
    | _ => exact holding.congr rfl kept

/-- A move reports success exactly when something is held and the lock is open. -/
theorem Handles.moved (holding : c.Holding) {x y : Num} (handles : c.Handles locked (.move x y) r) :
    r.reply = .ok (.moved (c.held.isSome && !locked)) := by
  cases handles with
  | still idle =>
      rw [holding.heldId?_eq_none_iff] at idle
      rcases idle with nothing | rfl
      · simp [nothing]
      · simp
  | drag heldId free drawn =>
      have some : c.held ≠ none := by
        rw [Ne, ← holding.heldId?_eq_none_iff, heldId]
        exact Option.some_ne_none _
      simp [Option.isSome_iff_ne_none.mpr some, free]

end Controller

end Straightedge
