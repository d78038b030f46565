import Mathlib.Logic.Relation
import Straightedge.Proofs.Frame.Emptiness
import Straightedge.Proofs.Frame.Layers

/-!
# What a moved point can change

Two states of a scene that differ in one entity only stay alike everywhere else
that does not lead to it along references: a midpoint is derived, and a block is
drawn, from the positions of its sources alone, and these do not lead to the moved
entity either. So a frame drawn after a drag has the same blocks for all that does
not depend on the dragged point.
-/

namespace Straightedge

namespace Scene

variable {s t s' t' : Scene} {p : Nat}

/-- One position refers to another: its entity names an id of which the other is the first
declaration. -/
def RefersTo (s : Scene) (i j : Nat) : Prop :=
  ∃ shape, s.shapeAt? i = some shape ∧ ∃ id ∈ shape.references, s.index? id = some j

/-- A position leads to another along references, or is the same. -/
def LeadsTo (s : Scene) : Nat → Nat → Prop := Relation.ReflTransGen s.RefersTo

theorem refersTo_eq_of_outline (same : s.outline = t.outline) : s.RefersTo = t.RefersTo := by
  funext i j
  simp only [RefersTo, shapeAt?_eq_of_outline same, index?_eq_of_outline same]

theorem leadsTo_eq_of_outline (same : s.outline = t.outline) : s.LeadsTo = t.LeadsTo := by
  rw [LeadsTo, LeadsTo, refersTo_eq_of_outline same]

/-- Nothing else leads to a position that no reference stands for. -/
theorem eq_of_leadsTo {i : Nat} (leads : s.LeadsTo i p)
    (unreferred : ∀ e ∈ s.entities, ∀ id ∈ e.references, s.index? id ≠ some p) : i = p := by
  rcases Relation.ReflTransGen.cases_tail leads with same | ⟨k, -, shape, atK, id, reference, index⟩
  · exact same.symm
  · obtain ⟨e, position, rfl⟩ := exists_of_shapeAt? atK
    exact absurd index (unreferred e (List.mem_of_getElem? position) id reference)

/-- Two states of a scene that differ at one position at most. -/
structure DifferAt (p : Nat) (s t : Scene) : Prop where
  outline : s.outline = t.outline
  elsewhere : ∀ i, i ≠ p → s.entities[i]? = t.entities[i]?

/-- What deriving at one position did when it succeeded: nothing, or set the middle of a
midpoint. -/
theorem deriveAt_eq_done {i : Nat} (derived : s.deriveAt i = ⟨s', none⟩) :
    (s' = s ∧ ∀ start stop, s.shapeAt? i = some (.midpoint start stop) →
      s.middle start stop = .ok none) ∨
    ∃ start stop m, s.shapeAt? i = some (.midpoint start stop) ∧
      s.middle start stop = .ok (some m) ∧ s' = s.setMiddle i m := by
  rcases deriveAt_cases s i with ⟨unchanged, nowhere⟩ | ⟨start, stop, m, isMidpoint, placed, set⟩
  · rw [derived] at unchanged nowhere
    exact .inl ⟨unchanged, nowhere rfl⟩
  · exact .inr ⟨start, stop, m, isMidpoint, placed, congrArg Outcome.state (derived.symm.trans set)⟩

theorem outline_of_deriveAt {i : Nat} (derived : s.deriveAt i = ⟨s', none⟩) :
    s'.outline = s.outline := by
  have same := outline_deriveAt s i
  rwa [derived] at same

theorem getElem?_of_deriveAt {i j : Nat} (derived : s.deriveAt i = ⟨s', none⟩)
    (different : i ≠ j) : s'.entities[j]? = s.entities[j]? := by
  rcases deriveAt_eq_done derived with ⟨rfl, -⟩ | ⟨start, stop, m, -, -, rfl⟩
  · rfl
  · rw [getElem?_setMiddle, if_neg different]

/-- Two states of a scene that are the same at every position that does not lead to a given one. -/
structure AgreeApart (p : Nat) (s t : Scene) : Prop where
  outline : s.outline = t.outline
  apart : ∀ i, ¬s.LeadsTo i p → s.entities[i]? = t.entities[i]?

theorem DifferAt.clearDerived (differ : s.DifferAt p t) :
    s.clearDerived.AgreeApart p t.clearDerived where
  outline := by rw [outline_clearDerived, outline_clearDerived, differ.outline]
  apart i free := by
    have different : i ≠ p := by
      rintro rfl
      exact free .refl
    rw [getElem?_clearDerived, getElem?_clearDerived, differ.elsewhere i different]

namespace AgreeApart

theorem clearDerived (agree : s.AgreeApart p t) : s.clearDerived.AgreeApart p t.clearDerived where
  outline := by rw [outline_clearDerived, outline_clearDerived, agree.outline]
  apart i free := by
    rw [leadsTo_eq_of_outline (outline_clearDerived s)] at free
    rw [getElem?_clearDerived, getElem?_clearDerived, agree.apart i free]

/-- An id is in the same place unless it leads to the given position. -/
theorem place (agree : s.AgreeApart p t) {id : String}
    (free : ∀ j, s.index? id = some j → ¬s.LeadsTo j p) : s.place id = t.place id := by
  apply place_congr agree.outline
  intro j index
  exact agree.apart j (free j index)

theorem middle (agree : s.AgreeApart p t) {i : Nat} {start stop : String}
    (isMidpoint : s.shapeAt? i = some (.midpoint start stop)) (free : ¬s.LeadsTo i p) :
    s.middle start stop = t.middle start stop := by
  apply middle_congr
  intro id source
  apply agree.place
  intro j index leads
  exact free (.head ⟨_, isMidpoint, id, source, index⟩ leads)

/-- What is derived at a position is the same unless the position leads to the given one. -/
theorem getElem?_deriveAt (agree : s.AgreeApart p t) {i : Nat} (free : ¬s.LeadsTo i p)
    (here : s.deriveAt i = ⟨s', none⟩) (there : t.deriveAt i = ⟨t', none⟩) :
    s'.entities[i]? = t'.entities[i]? := by
  have shape : s.shapeAt? i = t.shapeAt? i := shapeAt?_eq_of_outline agree.outline i
  rcases deriveAt_eq_done here with ⟨rfl, nowhere⟩ | ⟨start, stop, m, isMidpoint, placed, rfl⟩
  · rcases deriveAt_eq_done there with ⟨rfl, -⟩ | ⟨start, stop, m, isMidpoint, placed, rfl⟩
    · exact agree.apart i free
    · rw [← shape] at isMidpoint
      rw [← agree.middle isMidpoint free, nowhere start stop isMidpoint] at placed
      cases placed
  · have middle := agree.middle isMidpoint free
    rcases deriveAt_eq_done there with
      ⟨rfl, nowhere⟩ | ⟨start', stop', m', isMidpoint', placed', rfl⟩
    · rw [middle, nowhere start stop (shape ▸ isMidpoint)] at placed
      cases placed
    · rw [← shape, isMidpoint] at isMidpoint'
      obtain ⟨rfl, rfl⟩ := Shape.midpoint.inj (Option.some.inj isMidpoint')
      have same := placed.symm.trans (middle.trans placed')
      obtain rfl : m = m' := Option.some.inj (Except.ok.inj same)
      rw [getElem?_setMiddle, getElem?_setMiddle, agree.apart i free]

/-- Deriving at one position keeps two states alike. -/
theorem deriveAt (agree : s.AgreeApart p t) {i : Nat} (here : s.deriveAt i = ⟨s', none⟩)
    (there : t.deriveAt i = ⟨t', none⟩) : s'.AgreeApart p t' where
  outline := by rw [outline_of_deriveAt here, outline_of_deriveAt there, agree.outline]
  apart j free := by
    rw [leadsTo_eq_of_outline (outline_of_deriveAt here)] at free
    by_cases same : i = j
    · subst same
      exact agree.getElem?_deriveAt free here there
    · rw [getElem?_of_deriveAt here same, getElem?_of_deriveAt there same, agree.apart j free]

/-- Deriving one position after the other keeps two states alike. -/
theorem deriveAll (agree : s.AgreeApart p t) {positions : List Nat}
    (here : s.deriveAll positions = ⟨s', none⟩) (there : t.deriveAll positions = ⟨t', none⟩) :
    s'.AgreeApart p t' := by
  induction positions generalizing s t with
  | nil =>
      obtain rfl : s = s' := congrArg Outcome.state here
      obtain rfl : t = t' := congrArg Outcome.state there
      exact agree
  | cons i positions ih =>
      rw [Scene.deriveAll, Outcome.fold_cons] at here there
      obtain ⟨u, first, rest⟩ := Outcome.andThen_eq_done_iff.mp here
      obtain ⟨v, first', rest'⟩ := Outcome.andThen_eq_done_iff.mp there
      exact ih (agree.deriveAt first first') rest rest'

/-- A frame derives the same everywhere but where it leads to the entity that differs. -/
theorem rederive (differ : s.DifferAt p t) {options : Options}
    (here : s.rederive options = ⟨s', none⟩) (there : t.rederive options = ⟨t', none⟩) :
    s'.AgreeApart p t' := by
  have agree := differ.clearDerived
  unfold Scene.rederive at here there
  split at here
  · rw [if_pos ‹_›, deriveOrdered, ← dependencyOrder_eq_of_outline agree.outline] at there
    rw [deriveOrdered] at here
    split at here
    · rename_i order sorted
      rw [sorted] at there
      exact agree.deriveAll here there
    · cases here
  · rw [if_neg ‹_›, deriveDeclared, ← size_eq_of_outline agree.outline] at there
    exact agree.deriveAll here there

theorem shapeScene (agree : s.AgreeApart p t) (options : Options) :
    (Stage.shapeScene options s).AgreeApart p (Stage.shapeScene options t) := by
  unfold Stage.shapeScene
  split
  · exact agree
  · exact agree.clearDerived

end AgreeApart

end Scene

namespace Block

variable {s t : Scene} {p : Nat}

/-- No source of an entity that does not lead to a position leads there. -/
theorem not_leadsTo_of_source {i j : Nat} {e : Entity} {id : String}
    (shape : s.shapeAt? i = some e.shape) (source : id ∈ sources s e) (index : s.index? id = some j)
    (free : ¬s.LeadsTo i p) : ¬s.LeadsTo j p := by
  intro leads
  have direct : id ∈ e.shape.references → False := by
    intro reference
    exact free (.head ⟨e.shape, shape, id, reference, index⟩ leads)
  unfold sources at source
  cases shaped : e.shape with
  | point | plane | midpoint =>
      rw [shaped] at source
      cases source
  | line | segment | ray | bisector | circle | angle =>
      rw [shaped] at source direct
      exact direct source
  | angleBisector target =>
      rw [shaped] at source shape
      dsimp only at source
      split at source
      · rename_i vertex first second isAngle
        -- Its references are those of the bisected angle, which the bisector refers to.
        obtain ⟨angle, found, angleShape⟩ := Option.map_eq_some_iff.mp isAngle
        obtain ⟨k, targetIndex, targetPosition⟩ := Scene.exists_index?_of_find? found
        have toTarget : s.RefersTo i k :=
          ⟨_, shape, target, List.mem_singleton_self target, targetIndex⟩
        have angleAt : s.shapeAt? k = some (.angle vertex first second) := by
          rw [Scene.shapeAt?, targetPosition, Option.map_some, angleShape]
        have fromTarget : s.RefersTo k j := ⟨_, angleAt, id, source, index⟩
        exact free (.head toTarget (.head fromTarget leads))
      · cases source

/-- The block of an entity that does not lead to a position is the same in two states that agree
apart from it. -/
theorem of_eq_of_agreeApart (style : Style) (agree : s.AgreeApart p t) {i : Nat} {e : Entity}
    (shape : s.shapeAt? i = some e.shape) (free : ¬s.LeadsTo i p) :
    Block.of style s e = Block.of style t e := by
  apply of_congr rfl rfl rfl fun id _ => Scene.shapeOf_eq_of_outline agree.outline id
  intro id source
  apply agree.place
  intro j index
  exact not_leadsTo_of_source shape source index free

end Block

namespace Stage

variable {style : Style} {options : Options}

/-- A frame that succeeds leaves the clear of the whole surface and the blocks of the entities,
layer by layer and within a layer in declaration order; an entity contributes nothing exactly when
its block is idle. A state of the scene that differs at one position gives a frame with the same
blocks and the same entities at all positions that do not lead there. -/
theorem render_layered_and_local {w h : Int} (style : Style) (options : Options)
    {st : Stage Recording} (size : st.OfSize w h)
    (succeeds : (st.render style options).fault = none) :
    let left := (st.render style options).state
    let blocks := blocksOf style options left.scene
    left.surface.entries = .clear 0 0 (Float.ofInt w) (Float.ofInt h) ::
      (blocks [.line, .segment, .ray, .bisector] ++ blocks [.angle] ++ blocks [.angleBisector] ++
        blocks [.circle] ++ blocks [.point] ++ blocks [.midpoint]) ∧
    (∀ e ∈ left.scene.entities, contribution style options left.scene e = [] ↔
      Block.Idle (shapeScene options left.scene) e) ∧
    ∀ (st' : Stage Recording) (p : Nat), st.scene.DifferAt p st'.scene →
      (st'.render style options).fault = none →
      let left' := (st'.render style options).state
      ∀ i, ¬st.scene.LeadsTo i p → left.scene.entities[i]? = left'.scene.entities[i]? ∧
        ∀ e, left.scene.entities[i]? = some e →
          contribution style options left.scene e = contribution style options left'.scene e := by
  intro left blocks
  refine ⟨entries_render size succeeds, ?_, ?_⟩
  · intro e member
    exact Block.entries_eq_nil_iff (done_of_render succeeds member)
  · intro st' p differ succeeds' left' i free
    have agree : left.scene.AgreeApart p left'.scene :=
      .rederive differ (scene_render succeeds) (scene_render succeeds')
    have outline : st.scene.outline = left.scene.outline :=
      Scene.outline_eq_of_clearDerived_eq (keeps_render style options st).scene.symm
    rw [Scene.leadsTo_eq_of_outline outline] at free
    refine ⟨agree.apart i free, ?_⟩
    intro e position
    have sameOutline := outline_shapeScene options left.scene
    have shape : (shapeScene options left.scene).shapeAt? i = some e.shape := by
      rw [Scene.shapeAt?_eq_of_outline sameOutline, Scene.shapeAt?, position, Option.map_some]
    rw [← Scene.leadsTo_eq_of_outline sameOutline] at free
    rw [contribution, contribution, blockEntries, blockEntries,
      Block.of_eq_of_agreeApart style (agree.shapeScene options) shape free]

/-- A drag of a point changes the frame, but not what a segment elsewhere contributes to it. -/
theorem render_layered_and_local_segment :
    let scene (x y : Num) : Scene :=
      ⟨[{ id := "A", shape := .point, values := .ofPoint 0 0 },
        { id := "B", shape := .point, values := .ofPoint 4 2 },
        { id := "S", shape := .segment "A" "B" },
        { id := "P", shape := .point, values := .ofPoint x y }]⟩
    let st : Stage Recording := ⟨{}, scene 9 9⟩
    let st' : Stage Recording := ⟨{}, scene 7 1⟩
    let left := (st.render .default {}).state
    let left' := (st'.render .default {}).state
    left.surface.entries ≠ left'.surface.entries ∧
      contribution .default {} left.scene { id := "S", shape := .segment "A" "B" } =
        contribution .default {} left'.scene { id := "S", shape := .segment "A" "B" } := by
  intro scene st st' left left'
  have size : st.OfSize 500 500 := ⟨rfl, rfl⟩
  obtain ⟨-, -, apart⟩ := render_layered_and_local .default {} size (by decide +kernel)
  have differ : st.scene.DifferAt 3 st'.scene := by
    refine ⟨rfl, ?_⟩
    intro i different
    rcases i with _ | _ | _ | _ | i <;> first | rfl | exact absurd rfl different
  have free : ¬st.scene.LeadsTo 2 3 := by
    intro leads
    exact absurd (Scene.eq_of_leadsTo leads (by decide +kernel)) (by decide)
  refine ⟨by decide +kernel, ?_⟩
  exact (apart st' 3 differ (by decide +kernel) 2 free).2 _ (by decide +kernel)

end Stage

end Straightedge
