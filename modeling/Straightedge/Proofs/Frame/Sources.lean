import Straightedge.Frame.Blocks
import Straightedge.Proofs.Dependency.Derivation

/-!
# What a block takes of its scene

A block looks up the positions of its sources: of the references of its entity
or, for an angle bisector, of those of the bisected angle. With the same sources
in the same places a block is the same in any scene, and a block of which a
source has no place is empty, unless it fails.
-/

namespace Straightedge.Block

variable {s s' : Scene} {style : Style}

/-- The ids of which a block takes the positions. A marker stands at the position of the entity
itself and takes none. -/
def sources (s : Scene) (e : Entity) : List String :=
  match e.shape with
  | .point | .plane | .midpoint .. => []
  | .line a b | .segment a b | .ray a b | .bisector a b | .circle a b => [a, b]
  | .angle vertex first second => [vertex, first, second]
  | .angleBisector id =>
    match s.shapeOf id with
    | some (.angle vertex first second) => [vertex, first, second]
    | _ => []

/-- The sources of a block are references, if not of its own entity then of another one. -/
theorem exists_reference_of_source {e : Entity} {id : String} (source : id ∈ sources s e) :
    ∃ e', (e' = e ∨ e' ∈ s.entities) ∧ id ∈ e'.references := by
  unfold sources at source
  cases shaped : e.shape with
  | point | plane | midpoint =>
      rw [shaped] at source
      cases source
  | line | segment | ray | bisector | circle | angle =>
      rw [shaped] at source
      exact ⟨e, .inl rfl, by rwa [Entity.references, shaped]⟩
  | angleBisector target =>
      simp only [shaped] at source
      split at source
      · rename_i isAngle
        obtain ⟨e', found, shaped'⟩ := Option.map_eq_some_iff.mp isAngle
        exact ⟨e', .inr (List.mem_of_find?_eq_some found), by rwa [Entity.references, shaped']⟩
      · cases source

theorem ends_eq_some_iff {start stop : String} {a b : Vec} :
    ends s start stop = .ok (some (a, b)) ↔
      s.place start = .ok (some a) ∧ s.place stop = .ok (some b) := by
  unfold ends Scene.place
  rcases Entity.positionOf (s.find? start) with f | _ | a <;>
    rcases Entity.positionOf (s.find? stop) with f | _ | b <;>
    simp [bind, Except.bind, pure, Except.pure]

theorem arms_eq_some_iff {vertex first second : String} {v a b : Vec} :
    arms s vertex first second = .ok (some (v, a, b)) ↔
      s.place vertex = .ok (some v) ∧ s.place first = .ok (some a) ∧
        s.place second = .ok (some b) := by
  unfold arms Scene.place
  rcases Entity.positionOf (s.find? vertex) with f | _ | v <;>
    rcases Entity.positionOf (s.find? first) with f | _ | a <;>
    rcases Entity.positionOf (s.find? second) with f | _ | b <;>
    simp [bind, Except.bind, pure, Except.pure]

theorem ends_congr {start stop start' stop' : String} (first : s.place start = s'.place start')
    (second : s.place stop = s'.place stop') : ends s start stop = ends s' start' stop' := by
  unfold Scene.place at first second
  simp only [ends, first, second]

theorem arms_congr {vertex first second vertex' first' second' : String}
    (atVertex : s.place vertex = s'.place vertex') (atFirst : s.place first = s'.place first')
    (atSecond : s.place second = s'.place second') :
    arms s vertex first second = arms s' vertex' first' second' := by
  unfold Scene.place at atVertex atFirst atSecond
  simp only [arms, atVertex, atFirst, atSecond]

theorem of_marker {e : Entity} (isMarker : e.kind = .point ∨ e.kind = .midpoint) :
    Block.of style s e = marker style e := by
  unfold Block.of
  cases shaped : e.shape <;> first | rfl | simp [Entity.kind, shaped, Shape.kind] at isMarker

theorem of_plane {e : Entity} (isPlane : e.kind = .plane) : Block.of style s e = pure () := by
  unfold Block.of
  cases shaped : e.shape <;> first | rfl | simp [Entity.kind, shaped, Shape.kind] at isPlane

/-- With its sources in the same places a block is the same in two scenes. -/
theorem of_congr {e e' : Entity} (id : e.id = e'.id) (shape : e.shape = e'.shape)
    (position : e.values.position = e'.values.position)
    (shapes : ∀ id ∈ e.references, s.shapeOf id = s'.shapeOf id)
    (places : ∀ id ∈ sources s e, s.place id = s'.place id) :
    Block.of style s e = Block.of style s' e' := by
  have mark : marker style e = marker style e' := by
    simp only [marker, id, position, Entity.kind, shape]
  unfold Block.of
  rw [← shape]
  cases shaped : e.shape with
  | plane => rfl
  | point | midpoint => exact mark
  | line a b | segment a b | ray a b | bisector a b | circle a b =>
      simp only [sources, shaped] at places
      have same := ends_congr (places a (by simp)) (places b (by simp))
      simp only [line, segment, ray, bisector, circle, same]
  | angle v a b =>
      simp only [sources, shaped] at places
      have same := arms_congr (places v (by simp)) (places a (by simp)) (places b (by simp))
      simp only [angle, same]
  | angleBisector target =>
      simp only [sources, shaped] at places
      have same : armsOf s target = armsOf s' target := by
        have bisected : (s.find? target).map Entity.shape = (s'.find? target).map Entity.shape :=
          shapes target (by simp [Entity.references, shaped, Shape.references])
        unfold armsOf
        rw [← bisected]
        unfold Scene.shapeOf at places
        split
        · rename_i isAngle
          rw [isAngle] at places
          exact arms_congr (places _ (by simp)) (places _ (by simp)) (places _ (by simp))
        · rfl
      simp only [angleBisector, same]

/-- A drawing that goes on with nothing is empty, unless it fails. -/
theorem bind_eq_pure {α : Type} {found : Except Fault (Option α)} {next : Option α → Drawing Unit}
    (nothing : next none = pure ()) (unplaced : ∀ a, found ≠ .ok (some a))
    (succeeds : ∃ u, (liftM found >>= next : Drawing Unit).result = .ok u) :
    (liftM found >>= next : Drawing Unit) = pure () := by
  obtain f | _ | a := found
  · obtain ⟨u, impossible⟩ := succeeds
    cases impossible
  · exact nothing ▸ rfl
  · exact absurd rfl (unplaced a)

theorem ends_ne_some {start stop id : String} (source : id ∈ [start, stop])
    (unplaced : s.place id = .ok none) (found : Vec × Vec) :
    ends s start stop ≠ .ok (some found) := by
  intro both
  obtain ⟨first, second⟩ := ends_eq_some_iff.mp both
  have places : ∀ id ∈ [start, stop], s.place id ≠ .ok none := by
    simp [first, second]
  exact places id source unplaced

theorem arms_ne_some {vertex first second id : String} (source : id ∈ [vertex, first, second])
    (unplaced : s.place id = .ok none) (found : Vec × Vec × Vec) :
    arms s vertex first second ≠ .ok (some found) := by
  intro all
  obtain ⟨atVertex, atFirst, atSecond⟩ := arms_eq_some_iff.mp all
  have places : ∀ id ∈ [vertex, first, second], s.place id ≠ .ok none := by
    simp [atVertex, atFirst, atSecond]
  exact places id source unplaced

/-- A block of which a source has no place is empty, unless it fails. -/
theorem of_eq_pure {e : Entity} {id : String} (source : id ∈ sources s e)
    (unplaced : s.place id = .ok none) (succeeds : ∃ u, (Block.of style s e).result = .ok u) :
    Block.of style s e = pure () := by
  unfold Block.of at succeeds ⊢
  unfold sources at source
  cases shaped : e.shape with
  | plane => rfl
  | point | midpoint =>
      rw [shaped] at source
      cases source
  | line | segment | ray | bisector | circle =>
      rw [shaped] at source succeeds
      exact bind_eq_pure rfl (ends_ne_some source unplaced) succeeds
  | angle v a b =>
      rw [shaped] at source succeeds
      exact bind_eq_pure rfl (arms_ne_some source unplaced) succeeds
  | angleBisector target =>
      rw [shaped] at source succeeds
      refine bind_eq_pure rfl ?_ succeeds
      intro found
      unfold Scene.shapeOf at source
      dsimp only at source
      split at source
      · rename_i isAngle
        rw [armsOf, isAngle]
        exact arms_ne_some source unplaced found
      · cases source

end Straightedge.Block
