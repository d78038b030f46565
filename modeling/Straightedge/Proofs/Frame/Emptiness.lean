import Straightedge.Proofs.Frame.Render
import Straightedge.Proofs.Frame.Sources
import Straightedge.Proofs.Result

/-!
# Which blocks are empty

A block leaves no entry when one of its sources is nowhere, when it bisects what
is no angle, or when the shape has no direction. In every other case a block that
does not fail makes a call that a recording keeps, so these are all the reasons
there are.
-/

namespace Straightedge

/-- Whether a recording keeps an entry of a call: of every call but those on the pen. -/
def Call.isKept : Call → Bool
  | .pen _ => false
  | _ => true

namespace Recording

variable {r r' : Recording}

theorem entries_push_ne_nil {entry : Except Fault Entry} (made : r.push entry = ⟨r', none⟩) :
    r'.entries ≠ [] := by
  cases entry with
  | error f => cases made
  | ok e =>
      obtain rfl := congrArg Outcome.state made
      exact List.append_ne_nil_of_right_ne_nil _ (List.cons_ne_nil e [])

/-- A call that is kept leaves an entry, and no call takes the last entry away. -/
theorem entries_perform_ne_nil {c : Call} (made : r.perform c = ⟨r', none⟩)
    (shown : c.isKept ∨ r.entries ≠ []) : r'.entries ≠ [] := by
  cases c with
  | pen c =>
      obtain rfl := congrArg Outcome.state made
      exact shown.resolve_left Bool.false_ne_true
  | clear x y width height =>
      simp only [perform, clear] at made
      split at made
      · cases made
      · exact entries_push_ne_nil made
  | stroke => exact entries_push_ne_nil made
  | fill =>
      have pushed : r.push (.ok (.fill r.pen.fillColor r.pen.path)) = ⟨r', none⟩ := made
      exact entries_push_ne_nil pushed
  | text text x y => exact entries_push_ne_nil made

theorem entries_performAll_ne_nil {calls : List Call}
    (made : Surface.performAll r calls = ⟨r', none⟩)
    (shown : (∃ c ∈ calls, c.isKept) ∨ r.entries ≠ []) : r'.entries ≠ [] := by
  induction calls generalizing r with
  | nil =>
      obtain rfl := congrArg Outcome.state made
      exact shown.resolve_left (by simp)
  | cons c calls ih =>
      rw [Surface.performAll_cons] at made
      obtain ⟨middle, first, rest⟩ := Outcome.andThen_eq_done_iff.mp made
      apply ih rest
      rcases shown with ⟨kept, member, isKept⟩ | nonempty
      · rcases List.mem_cons.mp member with rfl | later
        · exact .inr (entries_perform_ne_nil first (.inl isKept))
        · exact .inl ⟨kept, later, isKept⟩
      · exact .inr (entries_perform_ne_nil first (.inr nonempty))

end Recording

namespace Drawing

variable {α β : Type} {d : Drawing α}

/-- Unless it fails, a drawing makes a call that is kept. -/
def Visible (d : Drawing α) : Prop := ∀ a, d.result = .ok a → ∃ c ∈ d.calls, c.isKept

theorem visible_call {c : Call} (kept : c.isKept) : (call c).Visible := by
  intro _ _
  exact ⟨c, List.mem_singleton_self c, kept⟩

theorem Visible.bind_left (first : d.Visible) (next : α → Drawing β) :
    (d >>= next).Visible := by
  intro b made
  change (d.bind next).result = .ok b at made
  change ∃ c ∈ (d.bind next).calls, c.isKept
  cases result : d.result with
  | error f =>
      rw [bind_of_error result] at made
      cases made
  | ok a =>
      rw [bind_of_ok result]
      obtain ⟨c, member, kept⟩ := first a result
      exact ⟨c, List.mem_append_left _ member, kept⟩

theorem visible_bind {next : α → Drawing β}
    (rest : ∀ a, d.result = .ok a → (next a).Visible) : (d >>= next).Visible := by
  intro b made
  change (d.bind next).result = .ok b at made
  change ∃ c ∈ (d.bind next).calls, c.isKept
  cases result : d.result with
  | error f =>
      rw [bind_of_error result] at made
      cases made
  | ok a =>
      rw [bind_of_ok result] at made ⊢
      obtain ⟨c, member, kept⟩ := rest a result b made
      exact ⟨c, List.mem_append_right _ member, kept⟩

theorem ok_bind (a : α) (next : α → Drawing β) :
    (liftM (Except.ok a : Except Fault α) >>= next : Drawing β) = next a := rfl

/-- A visible drawing leaves an entry, unless it fails. -/
theorem Visible.entries_ne_nil (visible : d.Visible)
    (succeeds : (d.on ({} : Recording)).fault = none) : d.entries ≠ [] := by
  obtain ⟨a, result⟩ := result_of_fault_eq_none succeeds
  have performs := (Outcome.andThen_fault_eq_none_iff.mp succeeds).1
  have made := Recording.entries_performAll_ne_nil (Outcome.eq_done performs)
    (.inl (visible a result))
  rwa [entries, on, Outcome.andThen_of_none performs]

end Drawing

namespace Vec

theorem unit?_eq_none_iff {a : Vec} : a.unit? = none ↔ a.length ≤ tolerance := by
  simp only [unit?]
  split <;> simp [*]

end Vec

namespace Construct

theorem farPoint_eq_none_iff {a b : Vec} {length : Num} :
    farPoint a b length = .ok none ↔ (b - a).unit? = none := by
  unfold farPoint
  split
  · rename_i short
    exact iff_of_true rfl short
  · rename_i u direction
    refine iff_of_false ?_ (direction ▸ Option.some_ne_none u)
    intro nowhere
    obtain ⟨_, _, impossible⟩ := Result.bind_eq_ok_iff.mp nowhere
    cases impossible

theorem perpendicularBisector_eq_none_iff {a b : Vec} {halfLength : Num} :
    perpendicularBisector a b halfLength = .ok none ↔ (b - a).unit? = none := by
  unfold perpendicularBisector
  split
  · rename_i short
    exact iff_of_true rfl short
  · rename_i u direction
    refine iff_of_false ?_ (direction ▸ Option.some_ne_none u)
    intro nowhere
    obtain ⟨_, _, impossible⟩ := Result.bind_eq_ok_iff.mp nowhere
    cases impossible

/-- No direction halves an angle exactly when an arm is short or the arms cancel out. -/
theorem halvingDirection_eq_none_iff {v a b : Vec} :
    halvingDirection v a b = none ↔
      ((a - v).length ≤ Vec.tolerance ∨ (b - v).length ≤ Vec.tolerance) ∨
      ∃ u w, (a - v).unit? = some u ∧ (b - v).unit? = some w ∧
        (u + w).length ≤ Vec.tolerance := by
  simp only [← Vec.unit?_eq_none_iff, halvingDirection]
  cases (a - v).unit? <;> cases (b - v).unit? <;> simp

end Construct

namespace Block

open Drawing (Visible visible_bind visible_call)

variable {s : Scene} {style : Style} {e : Entity}

/-- Why the block of an entity is empty. -/
inductive Idle (s : Scene) (e : Entity) : Prop where
  | plane (isPlane : e.kind = .plane)
  /-- A point or a midpoint has no position. -/
  | unplaced (isMarker : e.kind = .point ∨ e.kind = .midpoint) (nowhere : e.values.point? = none)
  /-- Nothing declares a source. -/
  | sourceMissing {id : String} (source : id ∈ sources s e) (undeclared : s.find? id = none)
  /-- A source has no position. -/
  | sourceUnplaced {id : String} {t : Entity} (source : id ∈ sources s e)
      (found : s.find? id = some t) (nowhere : t.values.point? = none)
  /-- An angle bisector has a target that is missing or no angle. -/
  | notAngle {id : String} (bisects : e.shape = .angleBisector id)
      (other : ∀ t, s.find? id = some t → t.kind ≠ .angle)
  | shortRay {start through : String} {a b : Vec} (shape : e.shape = .ray start through)
      (atStart : s.place start = .ok (some a)) (atThrough : s.place through = .ok (some b))
      (short : (b - a).length ≤ Vec.tolerance)
  | shortBisector {start stop : String} {a b : Vec} (shape : e.shape = .bisector start stop)
      (atStart : s.place start = .ok (some a)) (atStop : s.place stop = .ok (some b))
      (short : (b - a).length ≤ Vec.tolerance)
  | shortArm {id vertex first second : String} {v a b : Vec} (bisects : e.shape = .angleBisector id)
      (target : s.shapeOf id = some (.angle vertex first second))
      (atVertex : s.place vertex = .ok (some v)) (atFirst : s.place first = .ok (some a))
      (atSecond : s.place second = .ok (some b))
      (short : (a - v).length ≤ Vec.tolerance ∨ (b - v).length ≤ Vec.tolerance)
  /-- The directions of the two arms cancel out. -/
  | oppositeArms {id vertex first second : String} {v a b u w : Vec}
      (bisects : e.shape = .angleBisector id)
      (target : s.shapeOf id = some (.angle vertex first second))
      (atVertex : s.place vertex = .ok (some v)) (atFirst : s.place first = .ok (some a))
      (atSecond : s.place second = .ok (some b)) (toFirst : (a - v).unit? = some u)
      (toSecond : (b - v).unit? = some w) (short : (u + w).length ≤ Vec.tolerance)

theorem position_eq_none_iff {v : Values} : v.position = .ok none ↔ v.point? = none := by
  unfold Values.position
  split
  · rename_i x y placed
    cases Vec.ofNums x y <;> simp [placed, Functor.map, Except.map]
  · rename_i unplaced
    exact iff_of_true rfl unplaced

theorem place_eq_none_iff {id : String} :
    s.place id = .ok none ↔ ∀ t, s.find? id = some t → t.values.point? = none := by
  unfold Scene.place
  cases s.find? id with
  | none => simp [Entity.positionOf]
  | some t => simp [Entity.positionOf, position_eq_none_iff]

theorem idle_of_place_eq_none {id : String} (source : id ∈ sources s e)
    (nowhere : s.place id = .ok none) : Idle s e := by
  cases found : s.find? id with
  | none => exact .sourceMissing source found
  | some t => exact .sourceUnplaced source found (place_eq_none_iff.mp nowhere t found)

theorem visible_strokeIn (color : String) (width : Num) : (strokeIn color width).Visible := by
  apply visible_bind
  intro _ _
  apply visible_bind
  intro _ _
  exact visible_call rfl

theorem visible_stroke (a b : Vec) (color : String) (width : Num) :
    (stroke a b color width).Visible := by
  apply visible_bind
  intro _ _
  apply visible_bind
  intro _ _
  apply visible_bind
  intro _ _
  exact visible_strokeIn color width

theorem ends_eq_none {start stop : String} (nowhere : ends s start stop = .ok none) :
    ∃ id ∈ [start, stop], s.place id = .ok none := by
  unfold ends at nowhere
  simp only [List.mem_cons, List.not_mem_nil, or_false, exists_eq_or_imp, exists_eq_left,
    Scene.place]
  generalize Entity.positionOf (s.find? start) = first at nowhere ⊢
  generalize Entity.positionOf (s.find? stop) = second at nowhere ⊢
  rcases first with f | _ | a <;> rcases second with f | _ | b <;>
    simp [bind, Except.bind, pure, Except.pure] at nowhere ⊢

theorem arms_eq_none {vertex first second : String}
    (nowhere : arms s vertex first second = .ok none) :
    ∃ id ∈ [vertex, first, second], s.place id = .ok none := by
  unfold arms at nowhere
  simp only [List.mem_cons, List.not_mem_nil, or_false, exists_eq_or_imp, exists_eq_left,
    Scene.place]
  generalize Entity.positionOf (s.find? vertex) = p at nowhere ⊢
  generalize Entity.positionOf (s.find? first) = q at nowhere ⊢
  generalize Entity.positionOf (s.find? second) = r at nowhere ⊢
  rcases p with f | _ | v <;> rcases q with f | _ | a <;> rcases r with f | _ | b <;>
    simp [bind, Except.bind, pure, Except.pure] at nowhere ⊢

/-- A block that finds its sources is visible if what it goes on with is. -/
theorem visible_of_found {α : Type} {found : Except Fault (Option α)}
    {next : Option α → Drawing Unit} (placed : found ≠ .ok none)
    (rest : ∀ a, found = .ok (some a) → (next (some a)).Visible) :
    (liftM found >>= next : Drawing Unit).Visible := by
  apply visible_bind
  intro a result
  cases a with
  | none => exact absurd result placed
  | some a => exact rest a result

theorem visible_line {start stop : String} (placed : ends s start stop ≠ .ok none) :
    (line style s start stop).Visible := by
  apply visible_of_found placed
  intro ⟨a, b⟩ _
  apply visible_bind
  intro color _
  exact (visible_stroke a b color style.lineWidth).bind_left _

theorem visible_segment {start stop : String} (placed : ends s start stop ≠ .ok none) :
    (segment style s start stop).Visible := by
  apply visible_of_found placed
  intro ⟨a, b⟩ _
  apply visible_bind
  intro color _
  exact visible_stroke a b color style.lineWidth

theorem visible_ray {start through : String} (placed : ends s start through ≠ .ok none)
    (long : ∀ a b, ends s start through = .ok (some (a, b)) → (b - a).unit? ≠ none) :
    (ray style s start through).Visible := by
  apply visible_of_found placed
  intro ⟨a, b⟩ found
  apply visible_of_found
  · intro nowhere
    exact long a b found (Construct.farPoint_eq_none_iff.mp nowhere)
  · intro far _
    apply visible_bind
    intro color _
    exact (visible_stroke a far color style.lineWidth).bind_left _

theorem visible_bisector {start stop : String} (placed : ends s start stop ≠ .ok none)
    (long : ∀ a b, ends s start stop = .ok (some (a, b)) → (b - a).unit? ≠ none) :
    (bisector style s start stop).Visible := by
  apply visible_of_found placed
  intro ⟨a, b⟩ found
  apply visible_of_found
  · intro nowhere
    exact long a b found (Construct.perpendicularBisector_eq_none_iff.mp nowhere)
  · intro ⟨p, q⟩ _
    apply visible_bind
    intro color _
    exact visible_stroke p q color style.lineWidth

theorem visible_angle {vertex first second : String}
    (placed : arms s vertex first second ≠ .ok none) :
    (angle style s vertex first second).Visible := by
  apply visible_of_found placed
  intro ⟨v, a, b⟩ _
  apply visible_bind
  intro arc _
  apply visible_bind
  intro _ _
  apply visible_bind
  intro _ _
  apply visible_bind
  intro color _
  exact (visible_strokeIn color style.lineWidth).bind_left _

theorem visible_angleBisector {id : String} (placed : armsOf s id ≠ .ok none)
    (halved : ∀ v a b, armsOf s id = .ok (some (v, a, b)) →
      Construct.halvingDirection v a b ≠ none) :
    (angleBisector style s id).Visible := by
  apply visible_of_found placed
  intro ⟨v, a, b⟩ found
  dsimp only
  split
  · rename_i direction
    exact absurd direction (halved v a b found)
  · apply visible_bind
    intro reach _
    apply visible_bind
    intro color _
    exact visible_stroke v _ color style.lineWidth

theorem visible_circle {center through : String} (placed : ends s center through ≠ .ok none) :
    (circle style s center through).Visible := by
  apply visible_of_found placed
  intro ⟨c, p⟩ _
  apply visible_bind
  intro _ _
  apply visible_bind
  intro _ _
  apply visible_bind
  intro color _
  exact visible_strokeIn color style.lineWidth

theorem visible_marker (placed : e.values.position ≠ .ok none) : (marker style e).Visible := by
  apply visible_of_found placed
  intro p _
  apply visible_bind
  intro _ _
  apply visible_bind
  intro _ _
  apply visible_bind
  intro color _
  apply visible_bind
  intro _ _
  exact (visible_call rfl).bind_left _

theorem armsOf_of_angle {id vertex first second : String}
    (target : s.shapeOf id = some (.angle vertex first second)) :
    armsOf s id = arms s vertex first second := by
  unfold Scene.shapeOf at target
  simp only [armsOf, target]

theorem armsOf_of_other {id : String} (other : ∀ t, s.find? id = some t → t.kind ≠ .angle) :
    armsOf s id = .ok none := by
  unfold armsOf
  split
  · rename_i target
    obtain ⟨t, found, shape⟩ := Option.map_eq_some_iff.mp target
    exact absurd (congrArg Shape.kind shape) (other t found)
  · rfl

/-- Unless there is a reason for it to be empty, a block is visible. -/
theorem visible_of_not_idle (style : Style) (busy : ¬Idle s e) : (Block.of style s e).Visible := by
  have placed : ∀ id ∈ sources s e, s.place id ≠ .ok none := by
    intro id source nowhere
    exact busy (idle_of_place_eq_none source nowhere)
  have bothEnds : ∀ {a b}, sources s e = [a, b] → ends s a b ≠ .ok none := by
    intro a b same nowhere
    obtain ⟨id, source, atSource⟩ := ends_eq_none nowhere
    exact placed id (same ▸ source) atSource
  have allArms : ∀ {v a b}, sources s e = [v, a, b] → arms s v a b ≠ .ok none := by
    intro v a b same nowhere
    obtain ⟨id, source, atSource⟩ := arms_eq_none nowhere
    exact placed id (same ▸ source) atSource
  have marked : (e.kind = .point ∨ e.kind = .midpoint) → e.values.position ≠ .ok none := by
    intro isMarker nowhere
    exact busy (.unplaced isMarker (position_eq_none_iff.mp nowhere))
  unfold Block.of
  cases shaped : e.shape with
  | plane => exact absurd (.plane (congrArg Shape.kind shaped)) busy
  | point => exact visible_marker (marked (.inl (congrArg Shape.kind shaped)))
  | midpoint => exact visible_marker (marked (.inr (congrArg Shape.kind shaped)))
  | line a b => exact visible_line (bothEnds (by rw [sources, shaped]))
  | segment a b => exact visible_segment (bothEnds (by rw [sources, shaped]))
  | circle a b => exact visible_circle (bothEnds (by rw [sources, shaped]))
  | angle v a b => exact visible_angle (allArms (by rw [sources, shaped]))
  | ray start through =>
      apply visible_ray (bothEnds (by rw [sources, shaped]))
      intro a b found short
      obtain ⟨atStart, atThrough⟩ := ends_eq_some_iff.mp found
      exact busy (.shortRay shaped atStart atThrough (Vec.unit?_eq_none_iff.mp short))
  | bisector start stop =>
      apply visible_bisector (bothEnds (by rw [sources, shaped]))
      intro a b found short
      obtain ⟨atStart, atStop⟩ := ends_eq_some_iff.mp found
      exact busy (.shortBisector shaped atStart atStop (Vec.unit?_eq_none_iff.mp short))
  | angleBisector id =>
      by_cases isAngle : ∃ t, s.find? id = some t ∧ t.kind = .angle
      · obtain ⟨t, found, isAngle⟩ := isAngle
        obtain ⟨vertex, first, second, shape⟩ :
            ∃ vertex first second, t.shape = .angle vertex first second := by
          cases shape : t.shape <;> simp [Entity.kind, shape, Shape.kind] at isAngle ⊢
        have target : s.shapeOf id = some (.angle vertex first second) := by
          rw [Scene.shapeOf, found, Option.map_some, shape]
        have sources : sources s e = [vertex, first, second] := by
          simp only [Block.sources, shaped, target]
        apply visible_angleBisector
        · rw [armsOf_of_angle target]
          exact allArms sources
        · intro v a b arms none
          rw [armsOf_of_angle target] at arms
          obtain ⟨atVertex, atFirst, atSecond⟩ := arms_eq_some_iff.mp arms
          rcases Construct.halvingDirection_eq_none_iff.mp none with short | ⟨u, w, toA, toB, short⟩
          · exact busy (.shortArm shaped target atVertex atFirst atSecond short)
          · exact busy (.oppositeArms shaped target atVertex atFirst atSecond toA toB short)
      · refine absurd (.notAngle shaped ?_) busy
        intro t found isAngle'
        exact isAngle ⟨t, found, isAngle'⟩

/-- An idle block is empty, unless it fails. -/
theorem of_eq_pure_of_idle (idle : Idle s e)
    (succeeds : ∃ u, (Block.of style s e).result = .ok u) : Block.of style s e = pure () := by
  cases idle with
  | plane isPlane => exact of_plane isPlane
  | unplaced isMarker nowhere =>
      rw [of_marker isMarker, marker, position_eq_none_iff.mpr nowhere]
      rfl
  | sourceMissing source undeclared =>
      refine of_eq_pure source (place_eq_none_iff.mpr ?_) succeeds
      simp [undeclared]
  | sourceUnplaced source found nowhere =>
      refine of_eq_pure source (place_eq_none_iff.mpr ?_) succeeds
      simp [found, nowhere]
  | notAngle bisects other =>
      simp only [Block.of, bisects, angleBisector, armsOf_of_other other]
      rfl
  | @shortRay start through a b shape atStart atThrough short =>
      have nowhere : Construct.farPoint a b style.rayLength = .ok none :=
        Construct.farPoint_eq_none_iff.mpr (Vec.unit?_eq_none_iff.mpr short)
      simp only [Block.of, shape, ray, ends_eq_some_iff.mpr ⟨atStart, atThrough⟩, nowhere,
        Drawing.ok_bind]
  | @shortBisector start stop a b shape atStart atStop short =>
      have nowhere : Construct.perpendicularBisector a b style.bisectorHalfLength = .ok none :=
        Construct.perpendicularBisector_eq_none_iff.mpr (Vec.unit?_eq_none_iff.mpr short)
      simp only [Block.of, shape, bisector, ends_eq_some_iff.mpr ⟨atStart, atStop⟩, nowhere,
        Drawing.ok_bind]
  | shortArm bisects target atVertex atFirst atSecond short =>
      have none := Construct.halvingDirection_eq_none_iff.mpr (.inl short)
      simp only [Block.of, bisects, angleBisector, armsOf_of_angle target,
        arms_eq_some_iff.mpr ⟨atVertex, atFirst, atSecond⟩, none, Drawing.ok_bind]
  | oppositeArms bisects target atVertex atFirst atSecond toFirst toSecond short =>
      have none := Construct.halvingDirection_eq_none_iff.mpr
        (.inr ⟨_, _, toFirst, toSecond, short⟩)
      simp only [Block.of, bisects, angleBisector, armsOf_of_angle target,
        arms_eq_some_iff.mpr ⟨atVertex, atFirst, atSecond⟩, none, Drawing.ok_bind]

/-- A block that does not fail leaves no entry exactly when there is a reason for it. -/
theorem entries_eq_nil_iff (succeeds : ((Block.of style s e).on ({} : Recording)).fault = none) :
    (Block.of style s e).entries = [] ↔ Idle s e := by
  constructor
  · intro empty
    by_contra busy
    exact (visible_of_not_idle style busy).entries_ne_nil succeeds empty
  · intro idle
    rw [of_eq_pure_of_idle idle (Drawing.result_of_fault_eq_none succeeds)]
    rfl

end Block

end Straightedge
