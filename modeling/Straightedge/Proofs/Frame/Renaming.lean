import Straightedge.Drag.Controller
import Straightedge.Proofs.Canvas.SideBySide
import Straightedge.Proofs.Dependency.Renaming
import Straightedge.Proofs.Frame.Layers
import Straightedge.Proofs.Frame.Sources

/-!
# Frames under other names

A block asks for entities by name and shows no name but that of a marker. So with
different names kept apart the frame of a renamed scene is made side by side with that
of the scene, entry by entry, and only the labels of markers differ. A point is hit
without any name.
-/

namespace Straightedge

/-- Two entries of which the second is the first under other names. The labels of markers, which
are to the right of them, are names; the sizes of angles, which are centred, are not. -/
inductive Entry.Renamed (f : String → String) (marks : String → Prop) : Entry → Entry → Prop where
  | stroke (color : String) (width : Float) (path : Path Float) :
      Renamed f marks (.stroke color width path) (.stroke color width path)
  | fill (color : String) (path : Path Float) :
      Renamed f marks (.fill color path) (.fill color path)
  | label {id : String} (marked : marks id) (x y : Float) (color font baseline : String) :
      Renamed f marks (.text id x y color font "left" baseline)
        (.text (f id) x y color font "left" baseline)
  | size (text : String) (x y : Float) (color font baseline : String) :
      Renamed f marks (.text text x y color font "center" baseline)
        (.text text x y color font "center" baseline)

namespace Block

open Drawing (SideBySide call pen sideBySide_call sideBySide_lift sideBySide_pure)

variable {style : Style} {s : Scene} {f : String → String} {marks : String → Prop}
  {earlier : List Entry}

/-- Recordings whose logs differ, since the given entries, by names only. -/
abbrev InStep (f : String → String) (marks : String → Prop) (earlier : List Entry) :
    Recording → Recording → Prop :=
  Recording.InStep (Entry.Renamed f marks) earlier

/-- A drawing that shows no names. -/
abbrev Nameless (f : String → String) (marks : String → Prop) (earlier : List Entry) {α : Type}
    (d : Drawing α) : Prop :=
  d.SideBySide (InStep f marks earlier) d

theorem nameless_pen (c : PenCall) : Nameless f marks earlier (pen c) :=
  sideBySide_call fun _ _ step => step.perform_pen c

theorem Nameless.pen_bind {α : Type} {c : PenCall} {next next' : Unit → Drawing α}
    (rest : (next ()).SideBySide (InStep f marks earlier) (next' ())) :
    (pen c >>= next).SideBySide (InStep f marks earlier) (pen c >>= next') :=
  (nameless_pen c).bind fun _ => rest

theorem nameless_stroke_call : Nameless f marks earlier (call .stroke) := by
  apply sideBySide_call
  intro r r' step
  simp only [Recording.perform, step.pen]
  apply step.push
  unfold Recording.strokeEntry
  cases r.pen.lineWidth.toFloat with
  | error fault => exact .inl ⟨fault, rfl, rfl⟩
  | ok width => exact .inr ⟨_, _, rfl, rfl, .stroke _ width _⟩

theorem nameless_fill_call : Nameless f marks earlier (call .fill) := by
  apply sideBySide_call
  intro r r' step
  simp only [Recording.perform, step.pen]
  exact step.push (.inr ⟨_, _, rfl, rfl, .fill _ _⟩)

theorem nameless_strokeIn (color : String) (width : Num) :
    Nameless f marks earlier (strokeIn color width) := by
  apply Nameless.pen_bind
  apply Nameless.pen_bind
  exact nameless_stroke_call

theorem nameless_stroke (a b : Vec) (color : String) (width : Num) :
    Nameless f marks earlier (stroke a b color width) := by
  apply Nameless.pen_bind
  apply Nameless.pen_bind
  apply Nameless.pen_bind
  exact nameless_strokeIn color width

theorem nameless_arrow (tail head : Vec) : Nameless f marks earlier (arrow style tail head) := by
  apply SideBySide.found_bind rfl rfl
  intro ⟨tip, left, right⟩
  apply Nameless.pen_bind
  apply Nameless.pen_bind
  apply Nameless.pen_bind
  apply Nameless.pen_bind
  apply Nameless.pen_bind
  apply Nameless.pen_bind
  exact nameless_fill_call

/-- What follows once texts are aligned may rely on it. -/
theorem sideBySide_align {align : String} {next next' : Unit → Drawing Unit}
    (rest : (next ()).SideBySide
      (fun r r' => InStep f marks earlier r r' ∧ r.pen.align = align) (next' ())) :
    (pen (.align align) >>= next).SideBySide (InStep f marks earlier)
      (pen (.align align) >>= next') := by
  constructor
  · exact rest.result
  · intro r r' step
    rw [Drawing.on_bind_of_ok rfl, Drawing.on_bind_of_ok rfl, pen, Drawing.on_call,
      Drawing.on_call]
    have made := rest.on _ _ ⟨(step.perform_pen (.align align)).state, rfl⟩
    exact ⟨made.fault, made.state.1⟩

/-- Two texts that correspond in the given alignment are written side by side. -/
theorem sideBySide_label {align text text' : String} {place : Drawing Vec}
    (placed : ∀ S, place.SideBySide S place)
    (corresponds : ∀ x y color font baseline, Entry.Renamed f marks
      (.text text x y color font align baseline) (.text text' x y color font align baseline)) :
    (label style align text place).SideBySide (InStep f marks earlier)
      (label style align text' place) := by
  apply Nameless.pen_bind
  apply SideBySide.lift_bind
  intro color
  apply Nameless.pen_bind
  apply sideBySide_align
  apply SideBySide.bind
  · apply sideBySide_call
    intro r r' ⟨step, aligned⟩
    have made := step.perform_pen (.baseline "middle")
    exact ⟨made.fault, made.state, aligned⟩
  intro _
  apply (placed _).bind
  intro p
  apply sideBySide_call
  intro r r' ⟨step, aligned⟩
  have made : Outcome.Alike (InStep f marks earlier)
      (r.push (Recording.textEntry r.pen text (.real p.x) (.real p.y)))
      (r'.push (Recording.textEntry r.pen text' (.real p.x) (.real p.y))) :=
    step.push (.inr ⟨_, _, rfl, rfl, aligned ▸ corresponds _ _ _ _ _⟩)
  simp only [Recording.perform, step.pen]
  exact ⟨made.fault, made.state, aligned⟩

theorem nameless_line (start stop : String) :
    Nameless f marks earlier (line style s start stop) := by
  apply SideBySide.found_bind rfl rfl
  intro ⟨a, b⟩
  apply SideBySide.lift_bind
  intro color
  apply (nameless_stroke a b color style.lineWidth).bind
  intro _
  apply (nameless_arrow b a).bind
  intro _
  exact nameless_arrow a b

theorem nameless_segment (start stop : String) :
    Nameless f marks earlier (segment style s start stop) := by
  apply SideBySide.found_bind rfl rfl
  intro ⟨a, b⟩
  apply SideBySide.lift_bind
  intro color
  exact nameless_stroke a b color style.lineWidth

theorem nameless_ray (start through : String) :
    Nameless f marks earlier (ray style s start through) := by
  apply SideBySide.found_bind rfl rfl
  intro ⟨a, b⟩
  apply SideBySide.found_bind rfl rfl
  intro far
  apply SideBySide.lift_bind
  intro color
  apply (nameless_stroke a far color style.lineWidth).bind
  intro _
  exact nameless_arrow a far

theorem nameless_bisector (start stop : String) :
    Nameless f marks earlier (bisector style s start stop) := by
  apply SideBySide.found_bind rfl rfl
  intro ⟨a, b⟩
  apply SideBySide.found_bind rfl rfl
  intro ⟨p, q⟩
  apply SideBySide.lift_bind
  intro color
  exact nameless_stroke p q color style.lineWidth

theorem nameless_angle (vertex first second : String) :
    Nameless f marks earlier (angle style s vertex first second) := by
  apply SideBySide.found_bind rfl rfl
  intro ⟨v, a, b⟩
  apply SideBySide.lift_bind
  intro arc
  apply Nameless.pen_bind
  apply Nameless.pen_bind
  apply SideBySide.lift_bind
  intro color
  apply (nameless_strokeIn color style.lineWidth).bind
  intro _
  exact sideBySide_label (fun _ => sideBySide_pure _) (.size _)

theorem nameless_angleBisector (id : String) :
    Nameless f marks earlier (angleBisector style s id) := by
  apply SideBySide.found_bind rfl rfl
  intro ⟨v, a, b⟩
  dsimp only
  split
  · exact sideBySide_pure ()
  · apply SideBySide.lift_bind
    intro reach
    apply SideBySide.lift_bind
    intro color
    exact nameless_stroke v _ color style.lineWidth

theorem nameless_circle (center through : String) :
    Nameless f marks earlier (circle style s center through) := by
  apply SideBySide.found_bind rfl rfl
  intro ⟨c, p⟩
  apply Nameless.pen_bind
  apply Nameless.pen_bind
  apply SideBySide.lift_bind
  intro color
  exact nameless_strokeIn color style.lineWidth

/-- A marker shows the new name where it showed the old one. -/
theorem sideBySide_marker {e : Entity} (marked : marks e.id) :
    (marker style e).SideBySide (InStep f marks earlier) (marker style (e.rename f)) := by
  have kind : (e.rename f).kind = e.kind := Entity.kind_rename f e
  unfold marker
  rw [kind]
  apply SideBySide.found_bind rfl rfl
  intro p
  apply Nameless.pen_bind
  apply Nameless.pen_bind
  apply SideBySide.lift_bind
  intro fill
  apply Nameless.pen_bind
  apply nameless_fill_call.bind
  intro _
  apply SideBySide.lift_bind
  intro outline
  apply (nameless_strokeIn outline style.outlineWidth).bind
  intro _
  apply sideBySide_label
  · intro S
    apply SideBySide.lift_bind
    intro shift
    exact sideBySide_pure _
  · exact .label marked

theorem armsOf_rename (apart : s.KeepsApart f) {id : String} (named : id ∈ s.names) :
    armsOf (s.rename f) (f id) = armsOf s id := by
  have shapes := apart.shapeOf named
  unfold Scene.shapeOf at shapes
  unfold armsOf
  rw [shapes]
  cases found : s.find? id with
  | none => rfl
  | some e =>
      have places : ∀ id ∈ e.references, (s.rename f).place (f id) = s.place id := by
        intro id reference
        exact apart.place (Scene.mem_names_of_reference (List.mem_of_find?_eq_some found) reference)
      rw [Option.map_some, Option.map_some]
      unfold Entity.references at places
      cases shaped : e.shape with
      | angle v a b =>
          rw [shaped] at places
          exact arms_congr (places v (by simp [Shape.references]))
            (places a (by simp [Shape.references])) (places b (by simp [Shape.references]))
      | _ => rfl

/-- What is no marker contributes the same under other names. -/
theorem of_rename (apart : s.KeepsApart f) {e : Entity} (member : e ∈ s.entities)
    (other : ¬(e.kind = .point ∨ e.kind = .midpoint)) :
    Block.of style (s.rename f) (e.rename f) = Block.of style s e := by
  have named : ∀ id ∈ e.shape.references, id ∈ s.names :=
    fun id reference => Scene.mem_names_of_reference member reference
  have shape : (e.rename f).shape = e.shape.rename f := rfl
  unfold Block.of
  rw [shape]
  cases shaped : e.shape with
  | point | midpoint => simp [Entity.kind, shaped, Shape.kind] at other
  | plane => rfl
  | line a b | segment a b | ray a b | bisector a b | circle a b =>
      rw [shaped] at named
      have same := ends_congr (apart.place (named a (by simp [Shape.references])))
        (apart.place (named b (by simp [Shape.references])))
      simp only [Shape.rename, line, segment, ray, bisector, circle, same]
  | angle v a b =>
      rw [shaped] at named
      have same := arms_congr (apart.place (named v (by simp [Shape.references])))
        (apart.place (named a (by simp [Shape.references])))
        (apart.place (named b (by simp [Shape.references])))
      simp only [Shape.rename, angle, same]
  | angleBisector target =>
      rw [shaped] at named
      have same := armsOf_rename apart (named target (by simp [Shape.references]))
      simp only [Shape.rename, angleBisector, same]

theorem nameless_of {e : Entity} (other : ¬(e.kind = .point ∨ e.kind = .midpoint)) :
    Nameless f marks earlier (Block.of style s e) := by
  unfold Block.of
  cases shaped : e.shape with
  | point | midpoint => simp [Entity.kind, shaped, Shape.kind] at other
  | line => exact nameless_line _ _
  | segment => exact nameless_segment _ _
  | ray => exact nameless_ray _ _
  | bisector => exact nameless_bisector _ _
  | angle => exact nameless_angle _ _ _
  | angleBisector => exact nameless_angleBisector _
  | circle => exact nameless_circle _ _
  | plane => exact sideBySide_pure ()

/-- The block of an entity beside its block under other names. -/
theorem sideBySide_of (apart : s.KeepsApart f) {e : Entity} (member : e ∈ s.entities)
    (marked : e.kind = .point ∨ e.kind = .midpoint → marks e.id) :
    (Block.of style s e).SideBySide (InStep f marks earlier)
      (Block.of style (s.rename f) (e.rename f)) := by
  by_cases isMarker : e.kind = .point ∨ e.kind = .midpoint
  · have isMarker' : (e.rename f).kind = .point ∨ (e.rename f).kind = .midpoint := by
      rwa [Entity.kind_rename]
    rw [of_marker isMarker, of_marker isMarker']
    exact sideBySide_marker (marked isMarker)
  · rw [of_rename apart member isMarker]
    exact nameless_of isMarker

end Block

/-- The first point near a place is the same under other names. -/
theorem Scene.hit_rename (f : String → String) (s : Scene) (x y radius : Num) :
    (s.rename f).hit x y radius = s.hit x y radius := by
  have listed : ∀ (es : List Entity) (i : Nat),
      hitFrom i x y radius (es.map (Entity.rename f)) = hitFrom i x y radius es := by
    intro es
    induction es with
    | nil => exact fun _ => rfl
    | cons e es ih =>
        intro i
        have kind : (e.rename f).kind = e.kind := Entity.kind_rename f e
        have values : (e.rename f).values = e.values := rfl
        simp only [List.map_cons, hitFrom, kind, values, ih]
  exact listed s.entities 0

/-- An id that a marker shows: that of a point or a midpoint. -/
def Scene.Marks (s : Scene) (id : String) : Prop :=
  ∃ shape, (id, shape) ∈ s.outline ∧ (shape.kind = .point ∨ shape.kind = .midpoint)

namespace Stage

variable {style : Style} {options : Options} {f : String → String} {s : Scene}
  {earlier : List Entry} {st st' : Stage Recording}

theorem inLayers_rename (f : String → String) (s : Scene) (layers : List (List Kind)) :
    inLayers (s.rename f) layers = (inLayers s layers).map (Entity.rename f) :=
  inLayers_map (Entity.kind_rename f) s layers

/-- Two stages in the middle of a frame that differ by names only. The outline of the scene, which a
frame never changes, is that of the given one. -/
structure Renamed (f : String → String) (s : Scene) (earlier : List Entry)
    (st st' : Stage Recording) : Prop where
  surface : st.surface.InStep (Entry.Renamed f s.Marks) earlier st'.surface
  scene : st'.scene = st.scene.rename f
  outline : st.scene.outline = s.outline

theorem Renamed.draw (renamed : Renamed f s earlier st st') (apart : s.KeepsApart f) (style : Style)
    (layers : List (List Kind)) :
    Outcome.Alike (Renamed f s earlier) (st.draw style layers) (st'.draw style layers) := by
  have apart' := apart.of_outline renamed.outline.symm
  have blocks : (drawing style st.scene layers).SideBySide (Block.InStep f s.Marks earlier)
      (drawing style st'.scene layers) := by
    unfold drawing
    rw [renamed.scene, inLayers_rename, List.map_map]
    apply Drawing.sideBySide_sequence
    rw [List.forall₂_map_left_iff, List.forall₂_map_right_iff, List.forall₂_same]
    intro e inLayer
    have member := mem_of_mem_inLayers inLayer
    apply Block.sideBySide_of apart' member
    intro isMarker
    exact ⟨e.shape, renamed.outline ▸ List.mem_map_of_mem member, isMarker⟩
  have made := blocks.on _ _ renamed.surface
  exact ⟨made.fault, made.state, renamed.scene, renamed.outline⟩

theorem Renamed.onScene (renamed : Renamed f s earlier st st') {act : Scene → Outcome Scene}
    (commutes : act (st.scene.rename f) = (act st.scene).map (Scene.rename f))
    (outline : (act st.scene).state.outline = st.scene.outline) :
    Outcome.Alike (Renamed f s earlier) (st.onScene act) (st'.onScene act) := by
  have there : act st'.scene = (act st.scene).map (Scene.rename f) := by
    rw [renamed.scene, commutes]
  refine ⟨?_, renamed.surface, ?_, outline.trans renamed.outline⟩
  · exact (congrArg Outcome.fault there).symm
  · exact congrArg Outcome.state there

/-- Two ends of a frame that differ by names only, whether it is cut short or not. -/
structure SameButNames (f : String → String) (s : Scene) (earlier : List Entry)
    (o o' : Outcome (Stage Recording)) : Prop where
  fault : Option.Rel (Fault.Renamed f) o.fault o'.fault
  state : Renamed f s earlier o.state o'.state

theorem sameButNames_of_alike {o o' : Outcome (Stage Recording)}
    (alike : Outcome.Alike (Renamed f s earlier) o o') : SameButNames f s earlier o o' := by
  refine ⟨?_, alike.state⟩
  rw [← alike.fault]
  exact Fault.rel_renamed f o.fault

theorem Renamed.body (renamed : Renamed f s earlier st st') (apart : s.KeepsApart f) (style : Style)
    (options : Options) :
    SameButNames f s earlier (st.body style options) (st'.body style options) := by
  have apart' := apart.of_outline renamed.outline.symm
  unfold Stage.body
  split
  · obtain commutes | ⟨fault, fault', stops, stops', cycles⟩ := apart'.deriveOrdered
    · apply sameButNames_of_alike
      apply (renamed.onScene commutes (Scene.outline_eq_of_clearDerived_eq
        (Scene.clearDerived_deriveOrdered st.scene))).andThen
      intro b b' renamed
      apply (renamed.draw apart style shapeLayers).andThen
      intro b b' renamed
      exact renamed.draw apart style markerLayers
    · -- neither frame goes on
      rw [← renamed.scene] at stops'
      simp only [Stage.onScene, stops, stops', Outcome.map, Outcome.andThen_some]
      exact ⟨.some cycles, renamed⟩
  · apply sameButNames_of_alike
    apply (renamed.draw apart style shapeLayers).andThen
    intro b b' renamed
    have commutes := (apart.of_outline renamed.outline.symm).deriveDeclared
    apply (renamed.onScene commutes (Scene.outline_eq_of_clearDerived_eq
      (Scene.clearDerived_deriveDeclared b.scene))).andThen
    intro b b' renamed
    exact renamed.draw apart style markerLayers

/-- Nothing that a clear does depends on names. -/
theorem clear_alike_rename (f : String → String) (surface : Recording) (s : Scene) :
    Outcome.Alike (Renamed f s (Surface.clearAll surface).state.entries)
      (clear ⟨surface, s⟩) (clear ⟨surface, s.rename f⟩) := by
  apply Outcome.Alike.andThen
  · exact ⟨rfl, Recording.inStep_refl _ _, rfl, rfl⟩
  · intro b b' renamed
    have cleared : Outcome.mk (b.scene.rename f).clearDerived none =
        (⟨b.scene.clearDerived, none⟩ : Outcome Scene).map (Scene.rename f) := by
      rw [Scene.clearDerived_rename]
      rfl
    exact renamed.onScene cleared (Scene.outline_clearDerived b.scene)

/-- Names do not matter as long as different ones stay different. A renamed scene has the same
dependencies between positions and the same order; derivation in that order leaves every entity with
the same values; the same point is hit everywhere. In either mode a frame ends alike, leaves the
renamed scene, and adds the same entries to what the clear has left, but for the labels of points
and midpoints, which are renamed. -/
theorem render_rename (style : Style) (options : Options) (st : Stage Recording)
    (apart : st.scene.KeepsApart f) :
    let s := st.scene
    let s' := s.rename f
    let o := st.render style options
    let o' := Stage.render style options ⟨st.surface, s'⟩
    let cleared := (Surface.clearAll st.surface).state.entries
    s'.dependencyGraph = s.dependencyGraph ∧
    (∀ order, s'.dependencyOrder = .ok order ↔ s.dependencyOrder = .ok order) ∧
    s'.deriveOrdered.state = s.deriveOrdered.state.rename f ∧
    Option.Rel (Fault.Renamed f) s.deriveOrdered.fault s'.deriveOrdered.fault ∧
    (∀ x y radius, s'.hit x y radius = s.hit x y radius) ∧
    Option.Rel (Fault.Renamed f) o.fault o'.fault ∧
    o'.state.scene = o.state.scene.rename f ∧
    ∃ drawn drawn', o.state.surface.entries = cleared ++ drawn ∧
      o'.state.surface.entries = cleared ++ drawn' ∧
      List.Forall₂ (Entry.Renamed f s.Marks) drawn drawn' := by
  intro s s' o o' cleared
  have derives := apart.deriveOrdered_alike
  have draws : SameButNames f s cleared o o' := by
    have clears := clear_alike_rename f st.surface s
    change SameButNames f s cleared (Stage.render style options ⟨st.surface, s⟩)
      (Stage.render style options ⟨st.surface, s'⟩)
    rw [render_eq, render_eq]
    by_cases succeeds : (clear (⟨st.surface, s⟩ : Stage Recording)).fault = none
    · rw [Outcome.andThen_of_none succeeds, Outcome.andThen_of_none (clears.fault ▸ succeeds)]
      exact clears.state.body apart style options
    · rw [Outcome.andThen_of_ne_none succeeds, Outcome.andThen_of_ne_none (clears.fault ▸ succeeds)]
      exact sameButNames_of_alike clears
  exact ⟨apart.dependencyGraph, apart.dependencyOrder.1, derives.1, derives.2, s.hit_rename f,
    draws.fault, draws.state.scene, draws.state.surface.entries⟩

/-- A point and the midpoint next to it swap their names. -/
theorem render_rename_swap :
    let f : String → String :=
      fun name => if name = "A" then "M" else if name = "M" then "A" else name
    let st : Stage Recording := ⟨{}, ⟨[{ id := "A", shape := .point, values := .ofPoint 0 0 },
      { id := "B", shape := .point, values := .ofPoint 4 2 },
      { id := "M", shape := .midpoint "A" "B" }, { id := "S", shape := .segment "A" "M" }]⟩⟩
    let o := st.render .default { resolve := true }
    let o' := Stage.render .default { resolve := true } ⟨st.surface, st.scene.rename f⟩
    st.scene.KeepsApart f ∧ o.state.surface.texts = ["A", "B", "M"] ∧
      o'.state.surface.texts = ["M", "B", "A"] ∧ o'.state.scene = o.state.scene.rename f := by
  intro f st o o'
  have apart : st.scene.KeepsApart f := by
    change ∀ name ∈ st.scene.names, ∀ other ∈ st.scene.names, f name = f other → name = other
    decide +kernel
  obtain ⟨-, -, -, -, -, -, left, -⟩ := render_rename .default { resolve := true } st apart
  refine ⟨apart, by decide +kernel, by decide +kernel, ?_⟩
  unfold o o'
  exact left

end Stage

end Straightedge
