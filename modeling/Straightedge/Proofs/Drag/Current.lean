import Straightedge.Proofs.Drag.Run
import Straightedge.Proofs.Frame.Independence

/-!
# The view never lags the model

What is seen of a controller is the frame of its scene as it is now. An event that
changes a scene draws it afterwards with the style and options of its controller,
and every other event leaves both the scene and its surface alone. Since a frame
depends on the independent state alone, drawing over earlier frames makes no
difference, and neither does deriving again what was derived already.
-/

namespace Straightedge

namespace Controller

variable {c c' : Controller Recording} {w h : Int}

/-- The frame of a scene on a fresh recording of the size of the one it is drawn on. -/
def freshFrame (c : Controller Recording) : Outcome (Stage Recording) :=
  Stage.render c.style c.options
    ⟨{ width := c.surface.width, height := c.surface.height }, c.scene⟩

/-- What is seen of a controller is what a fresh frame of its scene would show, which would leave
the scene as it is, its derived values included. -/
structure Current (c : Controller Recording) : Prop where
  succeeds : c.freshFrame.fault = none
  entries : c.surface.entries = c.freshFrame.state.surface.entries
  scene : c.freshFrame.state.scene = c.scene

theorem keeps_of_render (drawn : c.render = ⟨c', none⟩) : c.stage.Keeps c'.stage := by
  have kept := Stage.keeps_render c.style c.options c.stage
  rwa [(render_eq_done_iff.mp drawn).1] at kept

/-- A frame that succeeds brings what is seen up to date. -/
theorem current_of_render (size : c.stage.OfSize w h) (drawn : c.render = ⟨c', none⟩) :
    c'.Current := by
  obtain ⟨frame, same⟩ := render_eq_done_iff.mp drawn
  have kept := keeps_of_render drawn
  have size' : Stage.OfSize w h
      ⟨{ width := c'.surface.width, height := c'.surface.height }, c'.scene⟩ :=
    ⟨kept.size.width.trans size.width, kept.size.height.trans size.height⟩
  have independent : c'.scene.clearDerived = c.stage.scene.clearDerived := kept.scene
  have setup := sameSetup_of_render drawn
  have alike : Stage.SameEnd c'.freshFrame (c.stage.render c.style c.options) := by
    unfold freshFrame
    rw [setup.style, setup.options]
    apply Stage.render_alike c.style c.options size' size
    exact congrArg Scene.seen independent
  rw [frame] at alike
  refine ⟨alike.fault, alike.entries.symm, ?_⟩
  apply Scene.eq_of_seen_eq (alike.seen alike.fault)
  exact (Stage.keeps_render _ _ _).scene

theorem sameSize_moveHeld (c : Controller Recording) (x y : Num) :
    c.surface.SameSize (c.moveHeld x y).surface := by
  unfold moveHeld
  split <;> exact ⟨rfl, rfl⟩

/-- Every event that succeeds keeps what is seen up to date, and the size of the surface. -/
theorem Handles.current {locked : Bool} {event : PointerEvent} {r : Response Recording}
    (handles : c.Handles locked event r) (size : c.stage.OfSize w h) (current : c.Current) :
    r.controller.Current ∧ c.surface.SameSize r.controller.surface := by
  cases handles with
  | drag held free drawn =>
      rename_i x y id moved
      have same := sameSize_moveHeld c x y
      have size' : (c.moveHeld x y).stage.OfSize w h :=
        ⟨same.width.trans size.width, same.height.trans size.height⟩
      exact ⟨current_of_render size' drawn, same.trans (keeps_of_render drawn).size⟩
  | draw drawn => exact ⟨current_of_render size drawn, (keeps_of_render drawn).size⟩
  | lockedPress engaged => exact ⟨current, ⟨rfl, rfl⟩⟩
  | still idle => exact ⟨current, ⟨rfl, rfl⟩⟩
  | press free hit =>
      exact ⟨⟨current.succeeds, current.entries, current.scene⟩, ⟨rfl, rfl⟩⟩
  | up => exact ⟨⟨current.succeeds, current.entries, current.scene⟩, ⟨rfl, rfl⟩⟩
  | leave => exact ⟨⟨current.succeeds, current.entries, current.scene⟩, ⟨rfl, rfl⟩⟩

/-- A controller after some steps: the same setup, on a surface of the same size, whatever is seen
of it up to date. -/
structure Follows (c₀ c : Controller Recording) : Prop where
  setup : c₀.SameSetup c
  size : c₀.surface.SameSize c.surface
  current : c.Current

end Controller

namespace Desk

/-- Controllers at the same positions, each of them up to date. -/
structure Follows (d₀ d : Desk Recording) : Prop where
  length : d.controllers.length = d₀.controllers.length
  each : ∀ (i : Nat) (c₀ : Controller Recording), d₀.controllers[i]? = some c₀ →
    ∃ c, d.controllers[i]? = some c ∧ c₀.Follows c

/-- The step lemma: one step keeps every controller up to date, not only the one it concerns. -/
theorem Follows.step {d₀ : Desk Recording} {m : Moment Recording}
    (sized : ∀ c₀ ∈ d₀.controllers, ∃ w h, c₀.stage.OfSize w h) (follows : d₀.Follows m.desk)
    (succeeds : m.Succeeds) : d₀.Follows m.result.desk := by
  refine ⟨m.length_result.trans follows.length, ?_⟩
  intro i c₀ original
  obtain ⟨c, there, before⟩ := follows.each i c₀ original
  obtain ⟨event, r, -, handles, -, now⟩ | ⟨-, now⟩ := succeeds.at there
  · obtain ⟨w, h, size⟩ := sized c₀ (List.mem_of_getElem? original)
    have size' : c.stage.OfSize w h :=
      ⟨before.size.width.trans size.width, before.size.height.trans size.height⟩
    obtain ⟨current, kept⟩ := handles.current size' before.current
    exact ⟨r.controller, now, before.setup.trans handles.sameSetup, before.size.trans kept, current⟩
  · exact ⟨c, now, before⟩

/-- Any number of controllers, each drawn once with its own style and options on a recording of
integer size. After every step of a run in which no step is cut short, whatever locks are shared
and flipped on the way, each controller has kept its style, its options and the size of its
surface, and its log is that of a fresh frame of its scene as it is now, which succeeds and
leaves the scene, and so the values of its midpoints, as they are. -/
theorem current_of_run {d : Desk Recording} {steps : List Step}
    (drawn : ∀ c ∈ d.controllers, ∃ (c₀ : Controller Recording) (w h : Int),
      c₀.stage.OfSize w h ∧ c₀.render = ⟨c, none⟩)
    (smooth : d.Smooth steps) {taken : List Step} (early : taken <+: steps) :
    (d.run taken).controllers.length = d.controllers.length ∧
    ∀ (i : Nat) (c₀ : Controller Recording), d.controllers[i]? = some c₀ →
      ∃ c, (d.run taken).controllers[i]? = some c ∧
      c₀.SameSetup c ∧ c₀.surface.SameSize c.surface ∧
      c.freshFrame.fault = none ∧
      c.surface.entries = c.freshFrame.state.surface.entries ∧
      c.freshFrame.state.scene = c.scene := by
  have sized : ∀ c ∈ d.controllers, ∃ w h, c.stage.OfSize w h := by
    intro c member
    obtain ⟨c₀, w, h, size, drawn⟩ := drawn c member
    have kept := (Controller.keeps_of_render drawn).size
    exact ⟨w, h, kept.width.trans size.width, kept.height.trans size.height⟩
  have start : d.Follows d := by
    refine ⟨rfl, ?_⟩
    intro i c original
    obtain ⟨c₀, w, h, size, drawn⟩ := drawn c (List.mem_of_getElem? original)
    exact ⟨c, original, ⟨rfl, rfl, rfl, rfl⟩, ⟨rfl, rfl⟩, Controller.current_of_render size drawn⟩
  have follows : d.Follows (d.run taken) := by
    apply run_keeps start
    intro m member holds
    exact holds.step sized (smooth.of_prefix early m member)
  refine ⟨follows.length, ?_⟩
  intro i c₀ original
  obtain ⟨c, now, setup, size, current⟩ := follows.each i c₀ original
  exact ⟨c, now, setup, size, current.succeeds, current.entries, current.scene⟩

/-- Two scenes under one switch, which is flipped between a press, two moves and the release. -/
theorem current_of_run_shared_lock :
    let scene : Scene := ⟨[{ id := "A", shape := .point, values := .ofPoint 0 0 },
      { id := "B", shape := .point, values := .ofPoint 4 2 },
      { id := "M", shape := .midpoint "A" "B" }]⟩
    let plain : Controller Recording :=
      { stage := ⟨{}, scene⟩, lock := .switch 0, style := .default }
    let early : Controller Recording := { plain with options := { resolve := true } }
    let d : Desk Recording :=
      { locks := ⟨[false], []⟩, controllers := [plain.render.state, early.render.state] }
    let steps : List Step := [.pointer 0 (.down 0 0), .pointer 1 (.down 4 2), .toggle 0,
      .pointer 0 (.move 9 9), .toggle 0, .pointer 0 (.move 8 4), .pointer 0 .up]
    d.Smooth steps ∧ ∀ c, (d.run steps).controllers[0]? = some c →
      c.scene.place "A" = .ok (some ⟨8, 4⟩) ∧
        c.surface.entries = c.freshFrame.state.surface.entries := by
  intro scene plain early d steps
  have smooth : d.Smooth steps := by decide +kernel
  refine ⟨smooth, ?_⟩
  intro c now
  have drawn : ∀ c ∈ d.controllers, ∃ (c₀ : Controller Recording) (w h : Int),
      c₀.stage.OfSize w h ∧ c₀.render = ⟨c, none⟩ := by
    intro c member
    have plainDrawn : plain.render.fault = none := by decide +kernel
    have earlyDrawn : early.render.fault = none := by decide +kernel
    obtain rfl | rfl : c = plain.render.state ∨ c = early.render.state := by simpa [d] using member
    · exact ⟨plain, 500, 500, ⟨rfl, rfl⟩, Outcome.eq_done plainDrawn⟩
    · exact ⟨early, 500, 500, ⟨rfl, rfl⟩, Outcome.eq_done earlyDrawn⟩
  have follows := current_of_run drawn smooth (List.prefix_refl steps)
  have moved : ((d.run steps).controllers[0]?).all
      (fun c => decide (c.scene.place "A" = .ok (some ⟨8, 4⟩))) = true := by decide +kernel
  rw [now] at moved
  obtain ⟨c', now', -, -, -, entries, -⟩ := follows.2 0 _ rfl
  obtain rfl := Option.some.inj (now.symm.trans now')
  exact ⟨of_decide_eq_true moved, entries⟩

end Desk

end Straightedge
