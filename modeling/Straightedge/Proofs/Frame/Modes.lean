import Mathlib.Data.List.Forall2
import Straightedge.Proofs.Frame.Render
import Straightedge.Proofs.Frame.Sources
import Straightedge.Proofs.Scene.WellFormed

/-!
# The default frame and the resolved frame

Derived late and in declaration order, midpoints get a part of what they get when
they are derived first and in dependency order. A block drawn over a part of a
scene is the block over the whole or empty, so the default frame leaves out
entries and never has others. Of a scene that was read it leaves out exactly the
shapes that rest on a midpoint, and both frames derive the same.
-/

namespace Straightedge

namespace Block

variable {style : Style} {s t f : Scene}

/-- Whether a block takes the position of a midpoint. -/
def restsOnMidpoint (s : Scene) (e : Entity) : Bool :=
  (sources s e).any fun id => (s.find? id).any (·.kind == .midpoint)

/-- The sources of a block are a matter of the outline of its scene. -/
theorem sources_eq_of_outline (same : s.outline = t.outline) (e : Entity) :
    sources s e = sources t e := by
  unfold sources
  simp only [Scene.shapeOf_eq_of_outline same]

theorem of_eq_pure_of_unplaced {e : Entity} (derived : e.kind = .midpoint)
    (unplaced : e.values = .empty) : Block.of style s e = pure () := by
  rw [of_marker (.inr derived), marker, unplaced]
  rfl

/-- Over a part of a scene a block is the block over the whole, unless it is empty or fails. -/
theorem of_below (below : t.Below f) {i : Nat} {e e' : Entity} (here : t.entities[i]? = some e)
    (there : f.entities[i]? = some e') (succeeds : ∃ u, (Block.of style t e).result = .ok u) :
    Block.of style t e = pure () ∨ Block.of style t e = Block.of style f e' := by
  rcases below.entity i e here with same | ⟨derived, unplaced⟩
  · obtain rfl := Option.some.inj (same.symm.trans there)
    by_cases placed : ∀ id ∈ sources t e, t.place id = f.place id
    · have outline := Scene.outline_eq_of_clearDerived_eq below.cleared
      exact .inr (of_congr rfl rfl rfl (fun id _ => Scene.shapeOf_eq_of_outline outline id) placed)
    · obtain ⟨id, source, different⟩ : ∃ id ∈ sources t e, t.place id ≠ f.place id := by
        simpa using placed
      exact .inl (of_eq_pure source ((below.place id).resolve_left different) succeeds)
  · exact .inl (of_eq_pure_of_unplaced derived unplaced)

/-- Without derived coordinates, a block that rests on a midpoint is empty, unless it fails, and
every other block is as it is. -/
theorem of_clearDerived {e : Entity}
    (succeeds : ∃ u, (Block.of style s.clearDerived e).result = .ok u) :
    Block.of style s.clearDerived e =
      if restsOnMidpoint s e then pure () else Block.of style s e := by
  have outline : s.clearDerived.outline = s.outline := Scene.outline_clearDerived s
  have sources : sources s.clearDerived e = sources s e := sources_eq_of_outline outline e
  split
  · rename_i rests
    obtain ⟨id, source, isMidpoint⟩ := List.any_eq_true.mp rests
    refine of_eq_pure (sources ▸ source) ?_ succeeds
    rw [Scene.place_clearDerived, if_pos isMidpoint]
  · rename_i free
    apply of_congr rfl rfl rfl fun id _ => Scene.shapeOf_eq_of_outline outline id
    intro id source
    have notMidpoint : ¬(s.find? id).any (·.kind == .midpoint) := by
      intro isMidpoint
      exact free (List.any_eq_true.mpr ⟨id, sources ▸ source, isMidpoint⟩)
    rw [Scene.place_clearDerived, if_neg notMidpoint]

end Block

namespace Stage

variable {style : Style} {s t f : Scene}

/-- Entities that correspond to each other contribute to one layer or to none. -/
theorem sublist_layer {R : Entity → Entity → Prop} {p : Entity → Bool} {g h : Entity → List Entry}
    {es es' : List Entity} (corresponds : List.Forall₂ R es es')
    (layer : ∀ e e', R e e' → p e = p e')
    (each : ∀ e ∈ es.filter p, ∀ e', R e e' → (g e).Sublist (h e')) :
    ((es.filter p).flatMap g).Sublist ((es'.filter p).flatMap h) := by
  induction corresponds with
  | nil => exact List.Sublist.refl _
  | @cons e e' es es' first _ ih =>
      have same := layer e e' first
      by_cases inLayer : p e
      · rw [List.filter_cons_of_pos inLayer] at each ⊢
        rw [List.filter_cons_of_pos (same ▸ inLayer), List.flatMap_cons, List.flatMap_cons]
        obtain ⟨here, rest⟩ := List.forall_mem_cons.mp each
        exact (here e' first).append (ih rest)
      · rw [List.filter_cons_of_neg inLayer] at each ⊢
        rw [List.filter_cons_of_neg (same ▸ inLayer)]
        exact ih each

/-- Two entities at one position of two scenes. -/
def Corresponds (t f : Scene) (e e' : Entity) : Prop :=
  ∃ i : Nat, t.entities[i]? = some e ∧ f.entities[i]? = some e'

theorem corresponds_of_below (below : t.Below f) :
    List.Forall₂ (Corresponds t f) t.entities f.entities := by
  have size : t.size = f.size :=
    Scene.size_eq_of_outline (Scene.outline_eq_of_clearDerived_eq below.cleared)
  apply List.forall₂_of_length_eq_of_get size
  intro i inside inside'
  exact ⟨i, List.getElem?_eq_getElem inside, List.getElem?_eq_getElem inside'⟩

theorem kind_eq_of_corresponds (below : t.Below f) {e e' : Entity}
    (both : Corresponds t f e e') : e.kind = e'.kind := by
  obtain ⟨i, here, there⟩ := both
  obtain ⟨e₁, there₁, alike⟩ := Scene.exists_of_clearDerived_eq below.cleared here
  obtain rfl := Option.some.inj (there.symm.trans there₁)
  exact (Entity.kind_of_cleared_eq alike).symm

/-- What is drawn over a part of a scene without a fault is a part of what is drawn over the
whole. -/
theorem sublist_of_below (below : t.Below f) (layers : List (List Kind))
    (succeeds : ∀ e ∈ inLayers t layers, ∃ u, (Block.of style t e).result = .ok u) :
    ((inLayers t layers).flatMap (blockEntries style t)).Sublist
      ((inLayers f layers).flatMap (blockEntries style f)) := by
  induction layers with
  | nil => exact List.Sublist.refl _
  | cons kinds layers ih =>
      obtain ⟨first, rest⟩ := List.forall_mem_append.mp succeeds
      have layer : ∀ e e', Corresponds t f e e' →
          kinds.contains e.kind = kinds.contains e'.kind := by
        intro e e' both
        rw [kind_eq_of_corresponds below both]
      have each : ∀ e ∈ t.entities.filter (fun e => kinds.contains e.kind), ∀ e',
          Corresponds t f e e' → (blockEntries style t e).Sublist (blockEntries style f e') := by
        intro e member e' ⟨i, here, there⟩
        unfold blockEntries
        rcases Block.of_below below here there (first e member) with empty | same
        · rw [empty]
          exact List.nil_sublist _
        · rw [same]
      have others := ih rest
      unfold inLayers at others ⊢
      rw [List.flatMap_cons, List.flatMap_cons, List.flatMap_append, List.flatMap_append]
      exact (sublist_layer (corresponds_of_below below) layer each).append others

theorem inLayers_append (s : Scene) (first rest : List (List Kind)) :
    inLayers s (first ++ rest) = inLayers s first ++ inLayers s rest :=
  List.flatMap_append

/-- Entities of layers without midpoints are there before anything is derived. -/
theorem inLayers_clearDerived (s : Scene) {layers : List (List Kind)}
    (independent : ∀ kinds ∈ layers, .midpoint ∉ kinds) :
    inLayers s.clearDerived layers = inLayers s layers := by
  have kept : ∀ e : Entity, e.cleared.kind = e.kind :=
    fun e => congrArg Shape.kind (Entity.shape_cleared e)
  have unchanged : ∀ e ∈ inLayers s layers, e.cleared = id e := by
    intro e inLayer
    obtain ⟨kinds, member, listed⟩ := List.mem_flatMap.mp inLayer
    apply Entity.cleared_of_ne
    intro derived
    apply independent kinds member
    rw [← derived]
    simpa using (List.mem_filter.mp listed).2
  calc
    inLayers s.clearDerived layers = (inLayers s layers).map Entity.cleared :=
      inLayers_map kept s layers
    _ = inLayers s layers := by rw [List.map_congr_left unchanged, List.map_id]

/-- Over a scene without derived coordinates, shapes leave the entries of those that do not rest on
a midpoint. -/
theorem entries_clearDerived (succeeds : ∀ e ∈ inLayers s.clearDerived shapeLayers,
      ∃ u, (Block.of style s.clearDerived e).result = .ok u) :
    (inLayers s.clearDerived shapeLayers).flatMap (blockEntries style s.clearDerived) =
      ((inLayers s shapeLayers).filter (!Block.restsOnMidpoint s ·)).flatMap
        (blockEntries style s) := by
  rw [inLayers_clearDerived s (by decide)] at succeeds ⊢
  generalize inLayers s shapeLayers = es at succeeds
  induction es with
  | nil => rfl
  | cons e es ih =>
      obtain ⟨first, rest⟩ := List.forall_mem_cons.mp succeeds
      have block := Block.of_clearDerived first
      rw [List.flatMap_cons, ih rest, blockEntries, block]
      by_cases rests : Block.restsOnMidpoint s e
      · simp [rests, Drawing.entries, Drawing.on_pure]
      · simp [rests, blockEntries]

theorem filter_markers (s : Scene) :
    (inLayers s markerLayers).filter (!Block.restsOnMidpoint s ·) = inLayers s markerLayers := by
  apply List.filter_eq_self.mpr
  intro e member
  obtain ⟨kinds, layer, inLayer⟩ := List.mem_flatMap.mp member
  have marked : e.kind = .point ∨ e.kind = .midpoint := by
    have kind := (List.mem_filter.mp inLayer).2
    rcases List.mem_cons.mp layer with rfl | last
    · exact .inl (by simpa using kind)
    · obtain rfl := List.mem_singleton.mp last
      exact .inr (by simpa using kind)
  have noSource : Block.sources s e = [] := by
    unfold Block.sources
    cases shaped : e.shape <;> simp_all [Entity.kind, Shape.kind]
  rw [Block.restsOnMidpoint, noSource]
  rfl

/-- What a frame leaves that draws its shapes over one scene and its markers over another. -/
structure Drawn (style : Style) (st : Stage Recording) (shapes markers : Scene)
    (left : Stage Recording) : Prop where
  scene : left.scene = markers
  shapesDone : ∀ e ∈ inLayers shapes shapeLayers,
    ((Block.of style shapes e).on ({} : Recording)).fault = none
  markersDone : ∀ e ∈ inLayers markers markerLayers,
    ((Block.of style markers e).on ({} : Recording)).fault = none
  entries : left.surface.entries = (Surface.clearAll st.surface).state.entries ++
    (inLayers shapes shapeLayers).flatMap (blockEntries style shapes) ++
    (inLayers markers markerLayers).flatMap (blockEntries style markers)

theorem Drawn.shapesSucceed {st left : Stage Recording} (drawn : Drawn style st s t left) :
    ∀ e ∈ inLayers s shapeLayers, ∃ u, (Block.of style s e).result = .ok u := by
  intro e member
  exact Drawing.result_of_fault_eq_none (drawn.shapesDone e member)

theorem Drawn.markersSucceed {st left : Stage Recording} (drawn : Drawn style st s t left) :
    ∀ e ∈ inLayers t markerLayers, ∃ u, (Block.of style t e).result = .ok u := by
  intro e member
  exact Drawing.result_of_fault_eq_none (drawn.markersDone e member)

/-- A clear that succeeds leaves a surface and a scene that a frame can start with. -/
theorem clear_eq_done {st b : Stage Recording} (h : st.clear = ⟨b, none⟩) :
    b.surface = (Surface.clearAll st.surface).state ∧ b.scene = st.scene.clearDerived := by
  obtain ⟨u, surface, scene⟩ := Outcome.andThen_eq_done_iff.mp h
  obtain ⟨clears, sameScene⟩ := onSurface_eq_done_iff.mp surface
  obtain ⟨forgets, sameSurface⟩ := onScene_eq_done_iff.mp scene
  rw [sameSurface, clears, ← sameScene]
  exact ⟨rfl, (congrArg Outcome.state forgets).symm⟩

/-- Shapes and markers leave their entries one after the other, whatever is done to the scene in
between. -/
theorem drawn_of_draw {st b u v left : Stage Recording}
    (clears : b.surface = (Surface.clearAll st.surface).state)
    (shapes : b.draw style shapeLayers = ⟨u, none⟩) (surface : v.surface = u.surface)
    (markers : v.draw style markerLayers = ⟨left, none⟩) :
    Drawn style st b.scene v.scene left := by
  obtain ⟨shapesDone, shapeEntries⟩ := entries_draw (congrArg Outcome.fault shapes)
  obtain ⟨markersDone, markerEntries⟩ := entries_draw (congrArg Outcome.fault markers)
  rw [shapes, clears] at shapeEntries
  rw [markers, surface, shapeEntries] at markerEntries
  exact ⟨(onSurface_eq_done_iff.mp markers).2, shapesDone, markersDone, markerEntries⟩

/-- A default frame that succeeds draws its shapes before anything is derived. -/
theorem drawn_default {st : Stage Recording} {options : Options} (late : options.resolve = false)
    (succeeds : (st.render style options).fault = none) :
    ∃ d, st.scene.clearDerived.deriveDeclared = ⟨d, none⟩ ∧
      Drawn style st st.scene.clearDerived d (st.render style options).state := by
  have done := Outcome.eq_done succeeds
  generalize (st.render style options).state = left at done ⊢
  rw [render_eq] at done
  obtain ⟨b, clears, done⟩ := Outcome.andThen_eq_done_iff.mp done
  simp only [body, late, Bool.false_eq_true, if_false] at done
  obtain ⟨u, shapes, done⟩ := Outcome.andThen_eq_done_iff.mp done
  obtain ⟨v, derives, markers⟩ := Outcome.andThen_eq_done_iff.mp done
  obtain ⟨derived, surface⟩ := onScene_eq_done_iff.mp derives
  obtain ⟨clearSurface, clearScene⟩ := clear_eq_done clears
  rw [(onSurface_eq_done_iff.mp shapes).2, clearScene] at derived
  rw [← clearScene] at derived ⊢
  exact ⟨v.scene, derived, drawn_of_draw clearSurface shapes surface markers⟩

/-- A resolved frame that succeeds draws all over the solved scene. -/
theorem drawn_resolved {st : Stage Recording} {options : Options} (early : options.resolve = true)
    (succeeds : (st.render style options).fault = none) :
    ∃ f, st.scene.clearDerived.deriveOrdered = ⟨f, none⟩ ∧
      Drawn style st f f (st.render style options).state := by
  have done := Outcome.eq_done succeeds
  generalize (st.render style options).state = left at done ⊢
  rw [render_eq] at done
  obtain ⟨b, clears, done⟩ := Outcome.andThen_eq_done_iff.mp done
  simp only [body, early, if_true] at done
  obtain ⟨u, derives, done⟩ := Outcome.andThen_eq_done_iff.mp done
  obtain ⟨v, shapes, markers⟩ := Outcome.andThen_eq_done_iff.mp done
  obtain ⟨derived, surface⟩ := onScene_eq_done_iff.mp derives
  obtain ⟨clearSurface, clearScene⟩ := clear_eq_done clears
  rw [clearScene] at derived
  have drawn := drawn_of_draw (surface.trans clearSurface) shapes rfl markers
  rw [(onSurface_eq_done_iff.mp shapes).2] at drawn
  exact ⟨u.scene, derived, drawn⟩

/-- The default frame against the resolved frame of the same scene, when both succeed. The default
frame leaves a part of the entries of the resolved one, and a midpoint that it gives coordinates
has the same ones in the other. If the scene has the outline of one that was read, however its
coordinates were changed since, both leave the same values, and the entries missing from the default
frame are those of the shapes that rest on a midpoint. -/
theorem default_below_resolved (style : Style) (st : Stage Recording)
    (succeeds : (st.render style { resolve := false }).fault = none)
    (succeeds' : (st.render style { resolve := true }).fault = none) :
    let d := (st.render style { resolve := false }).state
    let f := (st.render style { resolve := true }).state
    d.surface.entries.Sublist f.surface.entries ∧
    (∀ (i : Nat) (e : Entity), d.scene.entities[i]? = some e → e.kind = .midpoint →
      e.values.point?.isSome → f.scene.entities[i]? = some e) ∧
    ∀ text : String, st.scene.outline = (Scene.read text).scene.outline →
      d.scene = f.scene ∧
      f.surface.entries = (Surface.clearAll st.surface).state.entries ++
        (inLayers f.scene (shapeLayers ++ markerLayers)).flatMap (blockEntries style f.scene) ∧
      d.surface.entries = (Surface.clearAll st.surface).state.entries ++
        ((inLayers f.scene (shapeLayers ++ markerLayers)).filter
          (!Block.restsOnMidpoint f.scene ·)).flatMap (blockEntries style f.scene) := by
  obtain ⟨d, late, drawn⟩ := drawn_default rfl succeeds
  obtain ⟨f, early, drawn'⟩ := drawn_resolved rfl succeeds'
  have cleared : st.scene.clearDerived = f.clearDerived := by
    have kept := Scene.clearDerived_deriveOrdered st.scene.clearDerived
    rw [early, Scene.clearDerived_clearDerived] at kept
    exact kept.symm
  have below : st.scene.clearDerived.Below f := Scene.below_clearDerived cleared
  have belowLate : d.Below f := by
    have reached := below.deriveAll (Scene.solved_deriveOrdered early)
      (List.range st.scene.clearDerived.size)
    rwa [← Scene.deriveDeclared, late] at reached
  simp only [drawn.scene, drawn'.scene, drawn.entries, drawn'.entries]
  refine ⟨?_, ?_, ?_⟩
  · have shapes := sublist_of_below below shapeLayers drawn.shapesSucceed
    have markers := sublist_of_below belowLate markerLayers drawn.markersSucceed
    exact ((List.Sublist.refl _).append shapes).append markers
  · intro i e position derived placed
    apply (belowLate.entity i e position).resolve_right
    intro ⟨_, empty⟩
    rw [empty] at placed
    cases placed
  · intro text outline
    have order : st.scene.clearDerived.dependencyOrder =
        .ok (List.range st.scene.clearDerived.size) := by
      have read := (Scene.declared_read text).dependencyOrder
      have same := (Scene.outline_clearDerived st.scene).trans outline
      rw [Scene.dependencyOrder_eq_of_outline same, Scene.size_eq_of_outline same, read]
    have same : d = f := by
      rw [Scene.deriveOrdered, order] at early
      exact congrArg Outcome.state (late.symm.trans early)
    subst same
    have shapes := drawn.shapesSucceed
    rw [cleared] at shapes ⊢
    rw [inLayers_append, List.filter_append, filter_markers, List.flatMap_append,
      List.flatMap_append, entries_clearDerived shapes]
    exact ⟨rfl, List.append_assoc _ _ _, List.append_assoc _ _ _⟩

/-- A segment to a midpoint is the one entry that a default frame of its scene leaves out. -/
theorem default_below_resolved_segment :
    let text := "Point A (0, 0)\nPoint B (4, 2)\nMidpoint M A B\nSegment S A M"
    let st : Stage Recording := ⟨{}, (Scene.read text).scene⟩
    (st.render .default { resolve := false }).state.surface.entries.length = 10 ∧
      (st.render .default { resolve := true }).state.surface.entries.length = 11 ∧
      (st.render .default { resolve := false }).state.surface.entries.Sublist
        (st.render .default { resolve := true }).state.surface.entries ∧
      (st.render .default { resolve := false }).state.scene =
        (st.render .default { resolve := true }).state.scene := by
  intro text st
  obtain ⟨part, -, read⟩ :=
    default_below_resolved .default st (by decide +kernel) (by decide +kernel)
  obtain ⟨same, -⟩ := read text rfl
  exact ⟨by decide +kernel, by decide +kernel, part, same⟩

end Stage

end Straightedge
