import Straightedge.Proofs.Frame.Render
import Straightedge.Proofs.Frame.Seen

/-!
# A frame depends on the independent state alone

A frame begins with a clear that covers the surface and forgets what was derived.
From there on two runs stay alike: their recordings hold the same entries, their
scenes look the same, and every block is determined without the pen. Whatever was
drawn or derived before therefore does not matter, whether it was a whole frame or
one that was cut short.
-/

namespace Straightedge

namespace Entity

/-- Two entities that differ in derived values at most, or in values that are no coordinates. -/
structure SameIndependent (e e' : Entity) : Prop where
  id : e.id = e'.id
  shape : e.shape = e'.shape
  x : e.kind ≠ .midpoint → e.values.number? "x" = e'.values.number? "x"
  y : e.kind ≠ .midpoint → e.values.number? "y" = e'.values.number? "y"

theorem SameIndependent.seen_cleared {e e' : Entity} (same : e.SameIndependent e') :
    e.cleared.seen = e'.cleared.seen := by
  have kind : e.kind = e'.kind := congrArg Shape.kind same.shape
  by_cases derived : e.kind = .midpoint
  · rw [cleared_of_midpoint derived, cleared_of_midpoint (kind ▸ derived)]
    have none : Values.empty.coordinates = .empty := rfl
    simp [seen, same.id, same.shape, none]
  · rw [cleared_of_ne derived, cleared_of_ne (kind ▸ derived)]
    simp only [seen, same.id, same.shape, kind, kind ▸ derived, if_false,
      Values.coordinates_congr (same.x derived) (same.y derived)]

end Entity

namespace Scene

/-- Two valuations of a scene with the same independent state. -/
def SameIndependent (s s' : Scene) : Prop :=
  List.Forall₂ Entity.SameIndependent s.entities s'.entities

theorem SameIndependent.seen_clearDerived {s s' : Scene} (same : s.SameIndependent s') :
    s.clearDerived.seen = s'.clearDerived.seen := by
  apply congrArg Scene.mk
  change (s.entities.map Entity.cleared).map Entity.seen =
    (s'.entities.map Entity.cleared).map Entity.seen
  unfold SameIndependent at same
  generalize s.entities = es, s'.entities = es' at same
  induction same with
  | nil => rfl
  | cons first _ ih => simp only [List.map_cons, first.seen_cleared, ih]

end Scene

namespace Stage

/-- Two stages that a frame can not tell apart: the same entries, and scenes that look the same. -/
structure SameFrame (st st' : Stage Recording) : Prop where
  entries : st.surface.entries = st'.surface.entries
  seen : st.scene.seen = st'.scene.seen

variable {st st' : Stage Recording}

theorem SameFrame.draw (same : st.SameFrame st') (style : Style) (layers : List (List Kind)) :
    Outcome.Alike SameFrame (st.draw style layers) (st'.draw style layers) := by
  have drawing_eq : drawing style st.scene layers = drawing style st'.scene layers := by
    rw [← drawing_seen, same.seen, drawing_seen]
  have made := (determined_drawing style st.scene layers).on_eq st.surface
  have made' := (determined_drawing style st.scene layers).on_eq st'.surface
  have here : st.draw style layers =
      st.onSurface (drawing style st.scene layers).on := rfl
  have there : st'.draw style layers =
      st'.onSurface (drawing style st.scene layers).on := by rw [drawing_eq]; rfl
  rw [here, there]
  exact ⟨made.1.trans made'.1.symm, made.2.trans (same.entries ▸ made'.2.symm), same.seen⟩

theorem SameFrame.onScene {act : Scene → Outcome Scene}
    (commutes : ∀ s, act s.seen = (act s).map Scene.seen) (same : st.SameFrame st') :
    Outcome.Alike SameFrame (st.onScene act) (st'.onScene act) := by
  have both : (act st.scene).map Scene.seen = (act st'.scene).map Scene.seen := by
    rw [← commutes, same.seen, commutes]
  obtain ⟨seen, fault⟩ := Outcome.mk.inj both
  exact ⟨fault, same.entries, seen⟩

/-- Once cleared, two stages that look the same give the same frame. -/
theorem SameFrame.body (same : st.SameFrame st') (style : Style) (options : Options) :
    Outcome.Alike SameFrame (st.body style options) (st'.body style options) := by
  unfold Stage.body
  split
  · apply (same.onScene Scene.deriveOrdered_seen).andThen
    intro b b' same
    apply (same.draw style shapeLayers).andThen
    intro b b' same
    exact same.draw style markerLayers
  · apply (same.draw style shapeLayers).andThen
    intro b b' same
    apply (same.onScene Scene.deriveDeclared_seen).andThen
    intro b b' same
    exact same.draw style markerLayers

/-- A surface of integer size. -/
structure OfSize (w h : Int) (st : Stage Recording) : Prop where
  width : st.surface.width = .int w
  height : st.surface.height = .int h

variable {w h : Int}

/-- Clearing leaves nothing of what was drawn or derived before, unless the size is beyond all
doubles, which then is the fault of the frame. -/
theorem clear_alike (size : st.OfSize w h) (size' : st'.OfSize w h) :
    st.clear.fault = st'.clear.fault ∧
      st.clear.state.surface.entries = st'.clear.state.surface.entries ∧
      (st.clear.fault = none → st.clear.state.scene = st.scene.clearDerived ∧
        st'.clear.state.scene = st'.scene.clearDerived) := by
  have cleared := Recording.clearAll_of_size size.width size.height
  have cleared' := Recording.clearAll_of_size size'.width size'.height
  simp only [clear, onSurface, cleared, cleared', Recording.push, Outcome.map]
  cases Recording.clearEntry 0 0 (.int w) (.int h) with
  | error f => exact ⟨rfl, rfl, fun impossible => absurd impossible (Option.some_ne_none f)⟩
  | ok entry => exact ⟨rfl, rfl, fun _ => ⟨rfl, rfl⟩⟩

/-- Two frames that end alike: in the same fault or in none, with the same entries, and, unless
there was a fault, with scenes that look the same. -/
structure SameEnd (o o' : Outcome (Stage Recording)) : Prop where
  fault : o.fault = o'.fault
  entries : o.state.surface.entries = o'.state.surface.entries
  seen : o.fault = none → o.state.scene.seen = o'.state.scene.seen

/-- On surfaces of the same size, two valuations with the same independent state end alike. -/
theorem render_alike (style : Style) (options : Options) (size : st.OfSize w h)
    (size' : st'.OfSize w h) (same : st.scene.clearDerived.seen = st'.scene.clearDerived.seen) :
    SameEnd (st.render style options) (st'.render style options) := by
  obtain ⟨fault, entries, scenes⟩ := clear_alike size size'
  rw [render_eq, render_eq]
  by_cases succeeds : st.clear.fault = none
  · obtain ⟨scene, scene'⟩ := scenes succeeds
    have look : st.clear.state.SameFrame st'.clear.state := ⟨entries, by rw [scene, scene', same]⟩
    have made := look.body style options
    rw [Outcome.andThen_of_none succeeds, Outcome.andThen_of_none (fault ▸ succeeds)]
    exact ⟨made.fault, made.state.entries, fun _ => made.state.seen⟩
  · rw [Outcome.andThen_of_ne_none succeeds, Outcome.andThen_of_ne_none (fault ▸ succeeds)]
    exact ⟨fault, entries, fun none => absurd none succeeds⟩

/-- A frame depends on the independent state of its scene alone. On two recordings of the same
integer size, whatever was drawn on them and however their pens were left, and for two valuations
with the same coordinates of everything but midpoints, it ends in the same fault or in none, leaves
the same entries and, if it succeeds, the same values on every midpoint. It changes nothing of the
scene but the values of midpoints, and once any other frame of the scene was drawn before it,
completely or cut short, it is the same as without. -/
theorem render_independent (style : Style) (options : Options) {w h : Int}
    {st st' : Stage Recording} (size : st.OfSize w h) (size' : st'.OfSize w h)
    (same : st.scene.SameIndependent st'.scene) :
    (st.render style options).fault = (st'.render style options).fault ∧
    (st.render style options).state.surface.entries =
      (st'.render style options).state.surface.entries ∧
    ((st.render style options).fault = none → ∀ (i : Nat) (e e' : Entity),
      (st.render style options).state.scene.entities[i]? = some e →
      (st'.render style options).state.scene.entities[i]? = some e' →
      e.kind = .midpoint → e.values = e'.values) ∧
    (st.render style options).state.scene.clearDerived = st.scene.clearDerived ∧
    ∀ (earlierStyle : Style) (earlierOptions : Options),
      let again := (st.render earlierStyle earlierOptions).state.render style options
      again.fault = (st.render style options).fault ∧
      again.state.surface.entries = (st.render style options).state.surface.entries ∧
      (again.fault = none → again.state.scene = (st.render style options).state.scene) := by
  have made := render_alike style options size size' same.seen_clearDerived
  refine ⟨made.fault, made.entries, ?_, (keeps_render style options st).scene, ?_⟩
  · intro succeeds i e e' here there derived
    have look := Scene.seen_eq_of_getElem? (made.seen succeeds) here there
    have derived' : e'.kind = .midpoint := (congrArg Entity.kind look).symm.trans derived
    rw [← Entity.values_seen derived, look, Entity.values_seen derived']
  · intro earlierStyle earlierOptions
    have kept := keeps_render earlierStyle earlierOptions st
    have size' : (st.render earlierStyle earlierOptions).state.OfSize w h :=
      ⟨kept.size.width.trans size.width, kept.size.height.trans size.height⟩
    have repeated := render_alike style options size' size (by rw [kept.scene])
    refine ⟨repeated.fault, repeated.entries, ?_⟩
    intro succeeds
    apply Scene.eq_of_seen_eq (repeated.seen succeeds)
    rw [(keeps_render style options _).scene, kept.scene, (keeps_render style options st).scene]

/-- Neither what is left on a surface and of its pen nor a stale midpoint shows in a frame. -/
theorem render_independent_of_leftovers :
    let scene (stale : Values) : Scene :=
      ⟨[{ id := "A", shape := .point, values := .ofPoint 0 0 },
        { id := "B", shape := .point, values := .ofPoint 4 2 },
        { id := "M", shape := .midpoint "A" "B", values := stale }]⟩
    let fresh : Stage Recording := ⟨{}, scene .empty⟩
    let used : Stage Recording :=
      ⟨{ pen := { strokeColor := "red", font := "20px serif", path := [.close] },
         entries := [.fill "red" []] }, scene (.ofPoint 9 9)⟩
    (fresh.render .default {}).fault = none ∧ (used.render .default {}).fault = none ∧
      (used.render .default {}).state.surface.entries =
        (fresh.render .default {}).state.surface.entries := by
  intro scene fresh used
  have same : used.scene.SameIndependent fresh.scene :=
    .cons ⟨rfl, rfl, fun _ => rfl, fun _ => rfl⟩
      (.cons ⟨rfl, rfl, fun _ => rfl, fun _ => rfl⟩
        (.cons ⟨rfl, rfl, fun other => absurd rfl other, fun other => absurd rfl other⟩ .nil))
  have alike := render_independent .default {} ⟨rfl, rfl⟩ ⟨rfl, rfl⟩ same
  have succeeds : (fresh.render .default {}).fault = none := by decide +kernel
  exact ⟨succeeds, alike.1.trans succeeds, alike.2.1⟩

end Stage

end Straightedge
