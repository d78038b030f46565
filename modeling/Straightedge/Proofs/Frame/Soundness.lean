import Straightedge.Proofs.Canvas.Sound
import Straightedge.Proofs.Frame.Sources
import Straightedge.Proofs.Number.Range

/-!
# Which blocks are sound

With doubles for the lengths of its style and a colour for lines, a block fails for
two reasons only: a double cannot hold the position of a source or of the entity
itself, or the size of an angle is no integer. So a block fails only in the ways in
which these two do, and where they do not fail it is sound.
-/

namespace Straightedge

namespace Style

/-- The lengths and widths that a frame takes from its style. -/
def lengths (style : Style) : List Num :=
  [style.rayLength, style.bisectorHalfLength, style.angleRadius, style.angleLabelOffset,
    style.angleBisectorLength, style.arrowOffset, style.arrowSize, style.pointRadius,
    style.labelShift, style.lineWidth, style.outlineWidth]

/-- The lengths are doubles, and lines have a colour. -/
structure Plain (style : Style) : Prop where
  double : ∀ n ∈ style.lengths, ∃ x, n = .real x
  line : ∃ c, List.lookup "line" style.colors = some c

variable {style : Style}

theorem Plain.toFloat (plain : style.Plain) {n : Num} (member : n ∈ style.lengths) :
    ∃ x, n.toFloat = .ok x := by
  obtain ⟨x, rfl⟩ := plain.double n member
  exact ⟨x, rfl⟩

theorem Plain.color (plain : style.Plain) (part : String) : ∃ c, style.color part = .ok c := by
  obtain ⟨line, named⟩ := plain.line
  exact exists_color named part

theorem plain_default : Style.default.Plain where
  double := by simp [lengths, Style.default]
  line := ⟨"white", by decide⟩

end Style

namespace Construct

/-- The size of the smaller angle at a vertex between the directions of two points. -/
def sweep (vertex first second : Vec) : Float :=
  let arc := Turn.radians.arc (first - vertex).angle (second - vertex).angle
  arc.2 - arc.1

variable {style : Style} {v a b : Vec}

theorem exists_farPoint {length : Num} (usable : ∃ x, length.toFloat = .ok x) :
    ∃ far, farPoint a b length = .ok far := by
  obtain ⟨x, length⟩ := usable
  unfold farPoint
  split
  · exact ⟨none, rfl⟩
  · exact ⟨_, by rw [length]; rfl⟩

theorem exists_perpendicularBisector {halfLength : Num}
    (usable : ∃ x, halfLength.toFloat = .ok x) :
    ∃ ends, perpendicularBisector a b halfLength = .ok ends := by
  obtain ⟨x, halfLength⟩ := usable
  unfold perpendicularBisector
  split
  · exact ⟨none, rfl⟩
  · exact ⟨_, by rw [halfLength]; rfl⟩

theorem exists_arrowhead {offset size : Num} (usable : ∃ x, offset.toFloat = .ok x)
    (usable' : ∃ x, size.toFloat = .ok x) : ∃ head, arrowhead a b offset size = .ok head := by
  obtain ⟨x, offset⟩ := usable
  obtain ⟨y, size⟩ := usable'
  unfold arrowhead
  split
  · exact ⟨none, rfl⟩
  · exact ⟨_, by rw [offset, size]; rfl⟩

theorem angleArc_eq (v a b : Vec) (radius labelOffset : Float) :
    angleArc v a b (.real radius) (.real labelOffset) =
      wholeDegrees (sweep v a b) >>= fun degrees =>
        let arc := Turn.radians.arc (a - v).angle (b - v).angle
        let middle := (arc.1 + arc.2) / 2
        .ok ⟨v, arc.1, arc.2, degrees,
          v + Vec.scale ⟨middle.cos, middle.sin⟩ (radius + labelOffset)⟩ := rfl

/-- The arc of an angle can be drawn exactly if its size can be made an integer. -/
theorem exists_angleArc_iff {radius labelOffset : Float} :
    (∃ arc, angleArc v a b (.real radius) (.real labelOffset) = .ok arc) ↔
      ∃ degrees, wholeDegrees (sweep v a b) = .ok degrees := by
  rw [angleArc_eq]
  cases wholeDegrees (sweep v a b) with
  | error f => simp [bind, Except.bind]
  | ok degrees => simp [bind, Except.bind]

end Construct

namespace Block

open Drawing (FailsOnly failsOnly_call failsOnly_pen)

variable {s : Scene} {style : Style} {e : Entity} {allowed : Fault → Prop}

theorem fits_move (p : Vec) : (Call.pen (.step (.move (.real p.x) (.real p.y)))).Fits := ⟨_, rfl⟩

theorem fits_line (p : Vec) : (Call.pen (.step (.line (.real p.x) (.real p.y)))).Fits := ⟨_, rfl⟩

theorem failsOnly_arcAround (center : Vec) {radius start stop : Num}
    (usable : ∃ x, radius.toFloat = .ok x) (starts : ∃ x, start.toFloat = .ok x)
    (stops : ∃ x, stop.toFloat = .ok x) :
    (arcAround center radius start stop).FailsOnly allowed := by
  obtain ⟨x, radius⟩ := usable
  obtain ⟨y, start⟩ := starts
  obtain ⟨z, stop⟩ := stops
  apply failsOnly_pen
  exact ⟨_, by rw [PathStep.toFloats, radius, start, stop]; rfl⟩

theorem failsOnly_circleAround (center : Vec) {radius : Num}
    (usable : ∃ x, radius.toFloat = .ok x) : (circleAround center radius).FailsOnly allowed :=
  failsOnly_arcAround center usable Num.exists_toFloat_zero ⟨_, rfl⟩

theorem failsOnly_strokeIn (plain : style.Plain) {width : Num} (member : width ∈ style.lengths)
    (color : String) : (strokeIn color width).FailsOnly allowed :=
  FailsOnly.pen_bind trivial (FailsOnly.pen_bind (plain.toFloat member) (failsOnly_call trivial))

theorem failsOnly_stroke (plain : style.Plain) {width : Num} (member : width ∈ style.lengths)
    (a b : Vec) (color : String) : (stroke a b color width).FailsOnly allowed := by
  refine FailsOnly.pen_bind trivial ?_
  refine FailsOnly.pen_bind (fits_move a) ?_
  refine FailsOnly.pen_bind (fits_line b) ?_
  exact failsOnly_strokeIn plain member color

theorem failsOnly_label (plain : style.Plain) (align text : String) {place : Drawing Vec}
    (placed : place.FailsOnly allowed) : (label style align text place).FailsOnly allowed := by
  refine FailsOnly.pen_bind trivial ?_
  apply FailsOnly.made_bind (plain.color "label")
  intro color _
  refine FailsOnly.pen_bind trivial ?_
  refine FailsOnly.pen_bind trivial ?_
  refine FailsOnly.pen_bind trivial ?_
  apply placed.bind
  intro p _
  exact failsOnly_call ⟨⟨p.x, rfl⟩, p.y, rfl⟩

theorem failsOnly_arrow (plain : style.Plain) (tail head : Vec) :
    (arrow style tail head).FailsOnly allowed := by
  apply FailsOnly.found_bind _ rfl
  · intro ⟨tip, left, right⟩ _
    refine FailsOnly.pen_bind trivial ?_
    refine FailsOnly.pen_bind (fits_move tip) ?_
    refine FailsOnly.pen_bind (fits_line left) ?_
    refine FailsOnly.pen_bind (fits_line right) ?_
    refine FailsOnly.pen_bind ⟨_, rfl⟩ ?_
    refine FailsOnly.pen_bind trivial ?_
    exact failsOnly_call trivial
  · apply Result.failsOnly_of_ok
    exact Construct.exists_arrowhead (plain.toFloat (by simp [Style.lengths]))
      (plain.toFloat (by simp [Style.lengths]))

/-- Looking up a position in a scene fails in allowed ways only. -/
def PlacesFailOnly (allowed : Fault → Prop) (s : Scene) : Prop :=
  ∀ id, Result.FailsOnly allowed (s.place id)

theorem failsOnly_ends (places : PlacesFailOnly allowed s) (start stop : String) :
    Result.FailsOnly allowed (ends s start stop) := by
  apply (places start).bind
  intro a _
  apply (places stop).bind
  intro b _
  cases a <;> cases b <;> exact Result.failsOnly_of_ok ⟨_, rfl⟩

theorem failsOnly_arms (places : PlacesFailOnly allowed s) (vertex first second : String) :
    Result.FailsOnly allowed (arms s vertex first second) := by
  apply (places vertex).bind
  intro v _
  apply (places first).bind
  intro a _
  apply (places second).bind
  intro b _
  cases v <;> cases a <;> cases b <;> exact Result.failsOnly_of_ok ⟨_, rfl⟩

theorem failsOnly_line (plain : style.Plain) (places : PlacesFailOnly allowed s)
    (start stop : String) : (line style s start stop).FailsOnly allowed := by
  apply FailsOnly.found_bind (failsOnly_ends places start stop) rfl
  intro ⟨a, b⟩ _
  apply FailsOnly.made_bind (plain.color _)
  intro color _
  apply (failsOnly_stroke plain (by simp [Style.lengths]) a b color).bind
  intro _ _
  apply (failsOnly_arrow plain b a).bind
  intro _ _
  exact failsOnly_arrow plain a b

theorem failsOnly_segment (plain : style.Plain) (places : PlacesFailOnly allowed s)
    (start stop : String) : (segment style s start stop).FailsOnly allowed := by
  apply FailsOnly.found_bind (failsOnly_ends places start stop) rfl
  intro ⟨a, b⟩ _
  apply FailsOnly.made_bind (plain.color _)
  intro color _
  exact failsOnly_stroke plain (by simp [Style.lengths]) a b color

theorem failsOnly_ray (plain : style.Plain) (places : PlacesFailOnly allowed s)
    (start through : String) : (ray style s start through).FailsOnly allowed := by
  apply FailsOnly.found_bind (failsOnly_ends places start through) rfl
  intro ⟨a, b⟩ _
  apply FailsOnly.found_bind _ rfl
  · intro far _
    apply FailsOnly.made_bind (plain.color _)
    intro color _
    apply (failsOnly_stroke plain (by simp [Style.lengths]) a far color).bind
    intro _ _
    exact failsOnly_arrow plain a far
  · apply Result.failsOnly_of_ok
    exact Construct.exists_farPoint (plain.toFloat (by simp [Style.lengths]))

theorem failsOnly_bisector (plain : style.Plain) (places : PlacesFailOnly allowed s)
    (start stop : String) : (bisector style s start stop).FailsOnly allowed := by
  apply FailsOnly.found_bind (failsOnly_ends places start stop) rfl
  intro ⟨a, b⟩ _
  apply FailsOnly.found_bind _ rfl
  · intro ⟨p, q⟩ _
    apply FailsOnly.made_bind (plain.color _)
    intro color _
    exact failsOnly_stroke plain (by simp [Style.lengths]) p q color
  · apply Result.failsOnly_of_ok
    exact Construct.exists_perpendicularBisector (plain.toFloat (by simp [Style.lengths]))

/-- The sizes of the angles of a scene between points with positions are integers, unless they
fail to be in allowed ways. -/
def SizesFailOnly (allowed : Fault → Prop) (s : Scene) (vertex first second : String) : Prop :=
  ∀ v a b, arms s vertex first second = .ok (some (v, a, b)) →
    Result.FailsOnly allowed (Construct.wholeDegrees (Construct.sweep v a b))

theorem failsOnly_angle (plain : style.Plain) (places : PlacesFailOnly allowed s)
    {vertex first second : String} (sizes : SizesFailOnly allowed s vertex first second) :
    (angle style s vertex first second).FailsOnly allowed := by
  apply FailsOnly.found_bind (failsOnly_arms places vertex first second) rfl
  intro ⟨v, a, b⟩ found
  apply FailsOnly.lift_bind
  · obtain ⟨radius, isDouble⟩ := plain.double style.angleRadius (by simp [Style.lengths])
    obtain ⟨offset, isDouble'⟩ := plain.double style.angleLabelOffset (by simp [Style.lengths])
    rw [isDouble, isDouble', Construct.angleArc_eq]
    exact (sizes v a b found).bind fun _ _ => Result.failsOnly_of_ok ⟨_, rfl⟩
  · intro arc _
    refine FailsOnly.pen_bind trivial ?_
    have radius := plain.toFloat (n := style.angleRadius) (by simp [Style.lengths])
    apply (failsOnly_arcAround arc.center radius ⟨_, rfl⟩ ⟨_, rfl⟩).bind
    intro _ _
    apply FailsOnly.made_bind (plain.color _)
    intro color _
    apply (failsOnly_strokeIn plain (by simp [Style.lengths]) color).bind
    intro _ _
    exact failsOnly_label plain _ _ (Drawing.failsOnly_pure arc.labelAt)

theorem failsOnly_armsOf (places : PlacesFailOnly allowed s) (id : String) :
    Result.FailsOnly allowed (armsOf s id) := by
  unfold armsOf
  split
  · exact failsOnly_arms places _ _ _
  · exact Result.failsOnly_of_ok ⟨none, rfl⟩

theorem failsOnly_angleBisector (plain : style.Plain) (places : PlacesFailOnly allowed s)
    (id : String) : (angleBisector style s id).FailsOnly allowed := by
  apply FailsOnly.found_bind (failsOnly_armsOf places id) rfl
  intro ⟨v, a, b⟩ _
  dsimp only
  split
  · exact Drawing.failsOnly_pure ()
  · apply FailsOnly.made_bind (plain.toFloat (by simp [Style.lengths]))
    intro length _
    apply FailsOnly.made_bind (plain.color _)
    intro color _
    exact failsOnly_stroke plain (by simp [Style.lengths]) _ _ color

theorem failsOnly_circle (plain : style.Plain) (places : PlacesFailOnly allowed s)
    (center through : String) : (circle style s center through).FailsOnly allowed := by
  apply FailsOnly.found_bind (failsOnly_ends places center through) rfl
  intro ⟨c, p⟩ _
  refine FailsOnly.pen_bind trivial ?_
  apply (failsOnly_circleAround c ⟨_, rfl⟩).bind
  intro _ _
  apply FailsOnly.made_bind (plain.color _)
  intro color _
  exact failsOnly_strokeIn plain (by simp [Style.lengths]) color

theorem failsOnly_marker (plain : style.Plain)
    (place : Result.FailsOnly allowed e.values.position) :
    (marker style e).FailsOnly allowed := by
  apply FailsOnly.found_bind place rfl
  intro p _
  refine FailsOnly.pen_bind trivial ?_
  apply (failsOnly_circleAround p (plain.toFloat (by simp [Style.lengths]))).bind
  intro _ _
  apply FailsOnly.made_bind (plain.color _)
  intro color _
  refine FailsOnly.pen_bind trivial ?_
  refine FailsOnly.call_bind trivial ?_
  apply FailsOnly.made_bind (plain.color _)
  intro outline _
  apply (failsOnly_strokeIn plain (by simp [Style.lengths]) outline).bind
  intro _ _
  apply failsOnly_label plain
  apply FailsOnly.made_bind (plain.toFloat (by simp [Style.lengths]))
  intro shift _
  exact Drawing.failsOnly_pure _

/-- The block of an entity fails only as the positions that it takes do and, for an angle, as its
size does. -/
theorem failsOnly_of (plain : style.Plain) (places : PlacesFailOnly allowed s)
    (here : Result.FailsOnly allowed e.values.position)
    (sizes : ∀ vertex first second, e.shape = .angle vertex first second →
      SizesFailOnly allowed s vertex first second) : (of style s e).FailsOnly allowed := by
  unfold of
  cases shape : e.shape with
  | line start stop => exact failsOnly_line plain places start stop
  | segment start stop => exact failsOnly_segment plain places start stop
  | ray start through => exact failsOnly_ray plain places start through
  | bisector start stop => exact failsOnly_bisector plain places start stop
  | angle vertex first second => exact failsOnly_angle plain places (sizes _ _ _ shape)
  | angleBisector id => exact failsOnly_angleBisector plain places id
  | circle center through => exact failsOnly_circle plain places center through
  | point | midpoint => exact failsOnly_marker plain here
  | plane => exact Drawing.failsOnly_pure ()

/-! ## Blocks that do not fail -/

/-- Every position that there is in a scene is held by doubles. -/
def Placed (s : Scene) : Prop := ∀ id, ∃ p, s.place id = .ok p

theorem placesFailOnly_of_placed (placed : Placed s) : PlacesFailOnly allowed s :=
  fun id => Result.failsOnly_of_ok (placed id)

/-- The sizes of the angles of a scene between points with positions are integers. -/
def Sized (s : Scene) (vertex first second : String) : Prop :=
  ∀ v a b, arms s vertex first second = .ok (some (v, a, b)) →
    ∃ degrees, Construct.wholeDegrees (Construct.sweep v a b) = .ok degrees

theorem sound_marker (plain : style.Plain) (placed : ∃ p, e.values.position = .ok p) :
    (marker style e).Sound :=
  Drawing.sound_iff.mpr (failsOnly_marker plain (Result.failsOnly_of_ok placed))

/-- The block of an entity is sound if there are doubles for the positions that it takes and, for
an angle, if its size is an integer. -/
theorem sound_of (plain : style.Plain) (placed : Placed s)
    (here : ∃ p, e.values.position = .ok p)
    (sized : ∀ vertex first second, e.shape = .angle vertex first second →
      Sized s vertex first second) : (of style s e).Sound := by
  apply Drawing.sound_iff.mpr
  apply failsOnly_of plain (placesFailOnly_of_placed placed) (Result.failsOnly_of_ok here)
  intro vertex first second isAngle v a b found
  exact Result.failsOnly_of_ok (sized vertex first second isAngle v a b found)

end Block

end Straightedge
