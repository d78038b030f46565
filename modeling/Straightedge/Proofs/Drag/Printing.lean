import Straightedge.Proofs.Drag.Hold
import Straightedge.Proofs.Frame.Completion
import Straightedge.Proofs.Scene.Rounding

/-!
# Printing after a session

A frame that succeeds has found a double for every coordinate, so wherever a point
was dragged, it prints two integers that are not too long to be read. Nothing else
about a scene that was read changes in a session but derived values, so its print is
read again as the same entities exactly if no point was left at a negative integer.
-/

namespace Straightedge

namespace Drawing

theorem result_of_sequence {ds : List (Drawing Unit)} (h : ∃ u, (sequence ds).result = .ok u) :
    ∀ d ∈ ds, ∃ u, d.result = .ok u := by
  induction ds with
  | nil => exact fun _ member => absurd member List.not_mem_nil
  | cons d ds ih =>
      obtain ⟨u, result⟩ := h
      rw [sequence] at result
      cases here : d.result with
      | error f =>
          rw [bind_of_error here] at result
          cases result
      | ok v =>
          rw [bind_of_ok here] at result
          exact List.forall_mem_cons.mpr ⟨⟨v, here⟩, ih ⟨u, result⟩⟩

end Drawing

namespace Stage

variable {σ : Type} [Surface σ] {style : Style} {options : Options} {st left : Stage σ}

/-- The last thing that a frame draws are the markers, over the scene that it leaves. -/
theorem exists_markers_of_render (done : st.render style options = ⟨left, none⟩) :
    ∃ u, (drawing style left.scene markerLayers).result = .ok u := by
  have made : ∀ st' : Stage σ, st'.draw style markerLayers = ⟨left, none⟩ →
      ∃ u, (drawing style left.scene markerLayers).result = .ok u := by
    intro st' drawn
    obtain ⟨made, scene⟩ := onSurface_eq_done_iff.mp drawn
    rw [scene]
    exact Drawing.result_of_fault_eq_none (congrArg Outcome.fault made)
  rw [render_eq] at done
  obtain ⟨b, -, done⟩ := Outcome.andThen_eq_done_iff.mp done
  unfold body at done
  split at done
  all_goals
    obtain ⟨u, -, done⟩ := Outcome.andThen_eq_done_iff.mp done
    obtain ⟨v, -, markers⟩ := Outcome.andThen_eq_done_iff.mp done
    exact made v markers

/-- On any surface, a frame that succeeds has found a double for every coordinate of a point. -/
theorem position_of_render (done : st.render style options = ⟨left, none⟩) {e : Entity}
    (member : e ∈ left.scene.entities) (isPoint : e.kind = .point) :
    ∃ p, e.values.position = .ok p := by
  have inLayer : e ∈ inLayers left.scene markerLayers := by
    refine List.mem_flatMap.mpr ⟨[.point], by decide, List.mem_filter.mpr ⟨member, ?_⟩⟩
    simp [isPoint]
  have drawn := Drawing.result_of_sequence (exists_markers_of_render done) _
    (List.mem_map_of_mem inLayer)
  rw [Block.of_marker (.inl isPoint)] at drawn
  exact Block.position_of_marker drawn

end Stage

/-- The coordinates that a position was found for are in the range of doubles. -/
theorem Values.exists_toFloat_of_position {m n : Num} {p : Option Vec}
    (h : (ofPoint m n).position = .ok p) :
    (∃ x, m.toFloat = .ok x) ∧ ∃ y, n.toFloat = .ok y := by
  have opened : (ofPoint m n).position = some <$> Vec.ofNums m n := rfl
  rw [opened, Vec.ofNums] at h
  cases first : m.toFloat <;> cases second : n.toFloat <;>
    simp [first, second, bind, Except.bind, Functor.map, Except.map] at h ⊢

/-- A number that is printed as an integer which is not too long to be read. -/
def Num.Printable (n : Num) : Prop := ∃ k : Int, n.RoundsTo k ∧ k.natAbs < 10 ^ Statement.maxDigits

theorem Num.printable_of_toFloat {n : Num} {x : Float} (finite : n.Finite)
    (inRange : n.toFloat = .ok x) : n.Printable := by
  have short : integerBound < 10 ^ Statement.maxDigits := by decide +kernel
  obtain ⟨k, rounds, below⟩ := exists_roundsTo finite inRange
  exact ⟨k, rounds, below.trans short⟩

namespace Scene

variable {s s' : Scene}

/-- Every point has two coordinates and nothing else, and prints as a command. -/
def PointsPrintable (s : Scene) : Prop :=
  ∀ (j : Nat) (e : Entity), s.entities[j]? = some e → e.kind = .point →
    ∃ m n : Num, e.values = .ofPoint m n ∧ m.Printable ∧ n.Printable

theorem PointsPrintable.pointsRound (h : s.PointsPrintable) : s.PointsRound := by
  intro e member isPoint
  obtain ⟨j, position⟩ := List.getElem?_of_mem member
  obtain ⟨m, n, values, ⟨x, first, short⟩, ⟨y, second, short'⟩⟩ := h j e position isPoint
  refine ⟨x, y, ⟨m, n, ?_, ?_, first, second⟩, short, short'⟩ <;> rw [values] <;> rfl

/-- What is derived makes no difference to points. -/
theorem PointsPrintable.congr (h : s.PointsPrintable)
    (same : s'.clearDerived = s.clearDerived) : s'.PointsPrintable := by
  intro j e' position' isPoint
  obtain ⟨e, position, cleared⟩ := exists_of_clearDerived_eq same position'
  have independent : e'.kind ≠ .midpoint := by simp [isPoint]
  obtain rfl := Entity.eq_of_cleared_eq cleared independent
  exact h j e position isPoint

/-- The points of a scene that was read print as commands. -/
theorem pointsPrintable_read (text : String) : (read text).scene.PointsPrintable := by
  intro j e position isPoint
  have admitted := declared_read text j e position
  cases admitted with
  | @point id x y span isName first second =>
      exact ⟨.int x, .int y, rfl, ⟨x, .int x, by rwa [Int.natAbs_natCast]⟩,
        ⟨y, .int y, by rwa [Int.natAbs_natCast]⟩⟩
  | made notPoint => exact absurd ((Shape.kind_ofKind _ _).symm.trans isPoint) notPoint

theorem outline_modifyValues (s : Scene) (i : Nat) (f : Values → Values) :
    (s.modifyValues i f).outline = s.outline := by
  apply List.ext_getElem?
  intro j
  simp only [outline, entities_modifyValues, List.getElem?_map, List.getElem?_modify]
  cases s.entities[j]? with
  | none => rfl
  | some e => split <;> rfl

end Scene

namespace Controller

variable {σ : Type} [Surface σ] {c c' : Controller σ} {locked : Bool} {event : PointerEvent}
  {r : Response σ}

/-- A drag puts a point where it prints as a command, and leaves the others where they are. -/
theorem Drags.pointsPrintable {j : Nat} {x y : Num} (drags : c.Drags c' j x y) (first : x.Finite)
    (second : y.Finite) (h : c.scene.PointsPrintable) : c'.scene.PointsPrintable := by
  intro k e' position' isPoint
  by_cases here : k = j
  · subst here
    obtain ⟨e, position, isPoint₀, placed⟩ := drags.point
    obtain rfl := Option.some.inj (position'.symm.trans placed)
    obtain ⟨m, n, values, -⟩ := h k e position isPoint₀
    have values' : (e.placed x y).values = .ofPoint x y := by
      rw [Entity.placed, values, Values.setPoint_ofPoint]
    have frame := (render_eq_done_iff.mp drags.drawn).1
    obtain ⟨p, found⟩ := Stage.position_of_render frame (List.mem_of_getElem? position') isPoint
    rw [values'] at found
    obtain ⟨⟨_, inRange⟩, ⟨_, inRange'⟩⟩ := Values.exists_toFloat_of_position found
    exact ⟨x, y, values', Num.printable_of_toFloat first inRange,
      Num.printable_of_toFloat second inRange'⟩
  · have inRange : k < c.scene.size := drags.size ▸ Scene.lt_size_of_getElem? position'
    obtain ⟨e, position⟩ : ∃ e, c.scene.entities[k]? = some e :=
      ⟨_, List.getElem?_eq_getElem inRange⟩
    by_cases isMidpoint : e.kind = .midpoint
    · obtain ⟨v, now⟩ := drags.midpoints k e position isMidpoint
      obtain rfl := Option.some.inj (position'.symm.trans now)
      exact absurd (isMidpoint.symm.trans isPoint) (by decide)
    · have now := drags.others k e here position isMidpoint
      obtain rfl := Option.some.inj (position'.symm.trans now)
      exact h k e' position isPoint

theorem Drags.outline {j : Nat} {x y : Num} (drags : c.Drags c' j x y) :
    c'.scene.outline = c.scene.outline := by
  have kept := Scene.outline_eq_of_clearDerived_eq (Scene.clearDerived_rederive drags.derived)
  exact kept.trans (Scene.outline_modifyValues _ _ _)

/-- A controller whose scene is of a given outline, with points that print as commands, and which
holds one of them if anything. -/
structure Printable (outline : List (String × Shape)) (c : Controller σ) : Prop where
  holding : c.Holding
  outline : c.scene.outline = outline
  points : c.scene.PointsPrintable

/-- The step lemma: no event that succeeds leaves a point where it does not print as a command. -/
theorem Handles.printable {outline : List (String × Shape)} (handles : c.Handles locked event r)
    (finite : ∀ x y, event = .move x y → x.Finite ∧ y.Finite) (printable : c.Printable outline) :
    r.controller.Printable outline := by
  have holding := handles.holding printable.holding
  by_cases success : r.reply = .ok (.moved true)
  · obtain ⟨x, y, j, move, drags, -, -⟩ := handles.drags printable.holding success
    obtain ⟨first, second⟩ := finite x y move
    exact ⟨holding, drags.outline.trans printable.outline,
      drags.pointsPrintable first second printable.points⟩
  · have kept := (handles.keeps success).1
    exact ⟨holding, (Scene.outline_eq_of_clearDerived_eq kept).trans printable.outline,
      printable.points.congr kept⟩

end Controller

namespace Desk

variable {σ : Type} [Surface σ] {d : Desk σ} {steps : List Step} {i : Nat}

theorem step_mem_of_mem_history {m : Moment σ} (member : m ∈ d.history steps) : m.step ∈ steps := by
  induction steps generalizing d with
  | nil => cases member
  | cons s steps ih =>
      obtain rfl | later := List.mem_cons.mp member
      · exact List.mem_cons_self
      · exact List.mem_cons_of_mem s (ih later)

/-- After a session over a scene that was read, the scene prints, and its print is read as the same
entities exactly if every point prints natural numbers. Then it is accepted in strict mode as well,
its points are where the printed ones are, rounded, and it prints the same text again. -/
theorem print_of_run {c₀ : Controller σ} {text : String} (there : d.controllers[i]? = some c₀)
    (read : c₀.scene = (Scene.read text).scene) (idle : c₀.held = none) (smooth : d.Smooth steps)
    (finite : ∀ x y, Step.pointer i (.move x y) ∈ steps → x.Finite ∧ y.Finite) :
    ∃ c printed, (d.run steps).controllers[i]? = some c ∧ c.scene.print = .ok printed ∧
      ((Scene.read printed).scene.outline = c.scene.outline ↔ c.scene.PointsNatural) ∧
      (c.scene.PointsNatural →
        Scene.readStrict printed = .ok (Scene.read printed).scene ∧
        c.scene.Reprinted (Scene.read printed).scene ∧
        (Scene.read printed).scene.print = .ok printed) := by
  obtain ⟨c, now, printable⟩ : ∃ c, (d.run steps).controllers[i]? = some c ∧
      c.Printable (Scene.read text).scene.outline := by
    apply run_keeps (P := fun d => ∃ c, d.controllers[i]? = some c ∧
      c.Printable (Scene.read text).scene.outline)
    · exact ⟨c₀, there, Controller.holding_of_none idle, congrArg Scene.outline read,
        read ▸ Scene.pointsPrintable_read text⟩
    · rintro m member ⟨c, there, printable⟩
      obtain ⟨event, r, step, handles, -, now⟩ | ⟨-, now⟩ := (smooth m member).at there
      · refine ⟨r.controller, now, handles.printable ?_ printable⟩
        rintro x y rfl
        exact finite x y (step ▸ step_mem_of_mem_history member)
      · exact ⟨c, now, printable⟩
  have declarable : c.scene.Declarable :=
    (Scene.declared_read text).declarable printable.outline
  obtain ⟨printed, prints, same, whole⟩ :=
    Scene.print_of_declarable declarable printable.points.pointsRound
  exact ⟨c, printed, now, prints, same, whole⟩

/-- A point that is left between integers prints the even ones, and is read there again. -/
theorem print_of_run_halves :
    let text := "Point A (0, 0)\nPoint B (4, 2)\nSegment s A B\nMidpoint M A B"
    let printed := "Point A (2, 2)\nPoint B (4, 2)\nSegment s A B\nMidpoint M A B\n"
    let c₀ : Controller Recording :=
      { stage := ⟨{}, (Scene.read text).scene⟩, lock := .switch 0, style := .default }
    let d : Desk Recording := { locks := ⟨[false], []⟩, controllers := [c₀] }
    let steps : List Step := [.pointer 0 .draw, .pointer 0 (.down 0 0),
      .pointer 0 (.move (2.5 : Float) (1.5 : Float)), .pointer 0 .up]
    d.Smooth steps ∧ ∃ c, (d.run steps).controllers[0]? = some c ∧
      c.scene.print = .ok printed ∧
      Scene.readStrict printed = .ok (Scene.read printed).scene ∧
      c.scene.Reprinted (Scene.read printed).scene := by
  intro text printed c₀ d steps
  have smooth : d.Smooth steps := by decide +kernel
  have finite : ∀ x y, Step.pointer 0 (.move x y) ∈ steps → x.Finite ∧ y.Finite := by
    intro x y member
    have move : x = .real 2.5 ∧ y = .real 1.5 := by simpa [steps] using member
    obtain ⟨rfl, rfl⟩ := move
    exact ⟨show (2.5 : Float).isFinite = true by decide +kernel,
      show (1.5 : Float).isFinite = true by decide +kernel⟩
  obtain ⟨c, printed', now, prints, same, whole⟩ := print_of_run rfl rfl rfl smooth finite
  have found : ((d.run steps).controllers[0]?).all (fun c =>
      decide (c.scene.print = .ok printed ∧ (Scene.read printed).scene.outline = c.scene.outline)) =
        true := by
    decide +kernel
  rw [now] at found
  obtain ⟨prints', outline⟩ := of_decide_eq_true found
  obtain rfl := Except.ok.inj (prints.symm.trans prints')
  obtain ⟨accepted, reprinted, -⟩ := whole (same.mp outline)
  exact ⟨smooth, c, now, prints, accepted, reprinted⟩

end Desk

end Straightedge
