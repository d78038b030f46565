import Straightedge.Proofs.Frame.Success
import Straightedge.Proofs.Geometry.Sweep
import Straightedge.Proofs.Number.Nearest
import Straightedge.Proofs.Scene.RoundTrip
import Straightedge.Proofs.Scene.WellFormed
import Straightedge.Proofs.Text.Lines

/-!
# Which frames of a text are completed

Two things in a text cut its frame short: a point with a coordinate that no double
holds and, where midpoints are derived first, an angle with NaN in one of its arms, as
between midpoints that overflowed. A frame without them is completed, and it shows
the marker and the label of every point.
-/

namespace Straightedge

namespace Values

variable {x y : Nat}

theorem exists_position_ofPoint_iff :
    (∃ p, (ofPoint (.int x) (.int y)).position = .ok p) ↔
      x < Num.integerBound ∧ y < Num.integerBound := by
  have opened : (ofPoint (.int x) (.int y)).position = some <$> Vec.ofNums (.int x) (.int y) := rfl
  have inRange : ∀ {n : Nat}, n < Num.integerBound ↔ ∃ a, (Num.int n).toFloat = .ok a := by
    intro n
    simp only [Num.toFloat_int_eq_ok_iff, Int.natAbs_natCast, exists_and_left, exists_eq,
      and_true]
  rw [opened, Vec.ofNums, inRange, inRange]
  cases (Num.int x).toFloat <;> cases (Num.int y).toFloat <;>
    simp [bind, Except.bind, pure, Except.pure, Functor.map, Except.map]

theorem position_ofPoint (first : x < Num.integerBound) (second : y < Num.integerBound) :
    (ofPoint (.int x) (.int y)).position = .ok (some ⟨Float.ofNat x, Float.ofNat y⟩) := by
  have opened : (ofPoint (.int x) (.int y)).position = some <$> Vec.ofNums (.int x) (.int y) := rfl
  rw [opened, Vec.ofNums, Num.toFloat_int (i := x) first, Num.toFloat_int (i := y) second]
  rfl

end Values

namespace Entity

/-- A point at two natural numbers, each in the range of doubles. -/
structure RepresentableAt (e : Entity) (x y : Nat) : Prop where
  isPoint : e.kind = .point
  values : e.values = .ofPoint (.int x) (.int y)
  first : x < Num.integerBound
  second : y < Num.integerBound

variable {e : Entity} {x y : Nat}

theorem RepresentableAt.position (h : e.RepresentableAt x y) :
    e.values.position = .ok (some ⟨Float.ofNat x, Float.ofNat y⟩) := by
  rw [h.values, Values.position_ofPoint h.first h.second]

end Entity

namespace Block

variable {s : Scene} {style : Style} {e : Entity} {vertex first second : String}

/-- The dot of a point and its id beside, in the default style. -/
def markerEntries (id : String) (p : Vec) : List Entry :=
  let dot : Path Float := [.arc p.x p.y 5 0 (2 * Binary64.pi) false]
  [.fill "yellow" dot, .stroke "black" 1 dot,
    .text id (p.x + 8) p.y "white" "12px Arial" "left" "middle"]

theorem marker_default {p : Vec} (isPoint : e.kind = .point)
    (position : e.values.position = .ok (some p)) :
    marker .default e = ⟨[.pen .beginPath,
      .pen (.step (.arc (.real p.x) (.real p.y) (.real 5) 0 (.real (2 * Binary64.pi)) false)),
      .pen (.fillColor "yellow"), .fill, .pen (.strokeColor "black"), .pen (.lineWidth (.real 1)),
      .stroke, .pen (.font "12px Arial"), .pen (.fillColor "white"), .pen (.align "left"),
      .pen (.baseline "middle"), .text e.id (.real (p.x + 8)) (.real p.y)], .ok ()⟩ := by
  rw [marker, position, isPoint]
  rfl

theorem entries_marker {p : Vec} (isPoint : e.kind = .point)
    (position : e.values.position = .ok (some p)) :
    (marker .default e).entries = markerEntries e.id p := by
  rw [marker_default isPoint position, Drawing.entries, Drawing.on]
  have taken : PathStep.toFloats
      (.arc (.real p.x) (.real p.y) (.real 5) 0 (.real (2 * Binary64.pi)) false) =
        .ok (.arc p.x p.y 5 0 (2 * Binary64.pi) false) := by
    rw [PathStep.toFloats, Num.toFloat_zero]
    rfl
  simp only [Surface.performAll_cons, Surface.perform, Recording.perform, Pen.perform, taken]
  rfl

theorem position_of_marker (succeeds : ∃ u, (marker style e).result = .ok u) :
    ∃ p, e.values.position = .ok p := by
  obtain ⟨u, result⟩ := succeeds
  cases position : e.values.position with
  | ok p => exact ⟨p, rfl⟩
  | error f =>
      rw [marker, position] at result
      cases result

theorem sized_of_angle (plain : style.Plain)
    (succeeds : ∃ u, (angle style s vertex first second).result = .ok u) :
    Sized s vertex first second := by
  intro v a b found
  obtain ⟨u, result⟩ := succeeds
  obtain ⟨radius, isDouble⟩ := plain.double style.angleRadius (by simp [Style.lengths])
  obtain ⟨offset, isDouble'⟩ := plain.double style.angleLabelOffset (by simp [Style.lengths])
  cases made : Construct.angleArc v a b style.angleRadius style.angleLabelOffset with
  | ok arc =>
      rw [isDouble, isDouble'] at made
      exact Construct.exists_angleArc_iff.mp ⟨arc, made⟩
  | error f =>
      rw [angle, found] at result
      change ((liftM (Construct.angleArc v a b style.angleRadius style.angleLabelOffset) :
        Drawing _) >>= _).result = _ at result
      rw [made] at result
      cases result

/-- An angle has a size unless one of its arms is indefinite. -/
theorem sized_iff : Sized s vertex first second ↔
    ∀ v a b, arms s vertex first second = .ok (some (v, a, b)) →
      ¬(a - v).Indefinite ∧ ¬(b - v).Indefinite := by
  simp only [Sized, Construct.sweep, Construct.exists_wholeDegrees_iff]

end Block

namespace Scene

variable {s : Scene}

/-- No angle of a scene has NaN in one of its arms. -/
def ArmsDefinite (s : Scene) : Prop :=
  ∀ e ∈ s.entities, ∀ vertex first second, e.shape = .angle vertex first second →
    ∀ v a b, Block.arms s vertex first second = .ok (some (v, a, b)) →
      ¬(a - v).Indefinite ∧ ¬(b - v).Indefinite

/-- Doubles hold the coordinates of every point. -/
def PointsRepresentable (s : Scene) : Prop :=
  ∀ e ∈ s.entities, e.kind = .point → ∃ x y, e.RepresentableAt x y

/-- Of the entities of a text only points have a position of their own. -/
theorem position_read {text : String} (points : (read text).scene.PointsRepresentable) {e : Entity}
    (member : e ∈ (read text).scene.entities) :
    (∃ x y : Nat, e.RepresentableAt x y) ∨ e.values.position = .ok none := by
  by_cases isPoint : e.kind = .point
  · exact .inl (points e member isPoint)
  · obtain ⟨i, position⟩ := List.getElem?_of_mem member
    obtain ⟨noX, -⟩ := (declared_read text i e position).get?_eq_none isPoint
    right
    simp only [Values.position, Values.point?, Values.number?, noX, Option.join_none]

/-- In the range of doubles, everything that a text places stands at finite coordinates. -/
theorem isFinite_of_place_read {text : String} (points : (read text).scene.PointsRepresentable)
    {id : String} {p : Vec} (placed : (read text).scene.clearDerived.place id = .ok (some p)) :
    p.x.isFinite = true ∧ p.y.isFinite = true := by
  rw [place_clearDerived] at placed
  split at placed
  · cases placed
  · unfold place at placed
    cases found : (read text).scene.find? id with
    | none =>
        rw [found] at placed
        cases placed
    | some e =>
        rw [found] at placed
        change e.values.position = _ at placed
        rcases position_read points (List.mem_of_find?_eq_some found) with ⟨x, y, stands⟩ | nowhere
        · obtain rfl := Option.some.inj (Except.ok.inj (stands.position.symm.trans placed))
          exact ⟨Binary64.isFinite_ofNat stands.first, Binary64.isFinite_ofNat stands.second⟩
        · rw [nowhere] at placed
          cases placed

theorem armsDefinite_clearDerived {text : String}
    (points : (read text).scene.PointsRepresentable) :
    (read text).scene.clearDerived.ArmsDefinite := by
  intro e _ vertex first second _ v a b found
  obtain ⟨atVertex, atFirst, atSecond⟩ := Block.arms_eq_some_iff.mp found
  obtain ⟨finiteX, finiteY⟩ := isFinite_of_place_read points atVertex
  have definite : ∀ {id : String} {c : Vec},
      (read text).scene.clearDerived.place id = .ok (some c) → ¬(c - v).Indefinite := by
    intro id c placed
    obtain ⟨finiteX', finiteY'⟩ := isFinite_of_place_read points placed
    rw [Vec.Indefinite, not_or, Bool.not_eq_true, Bool.not_eq_true]
    exact ⟨Binary64.isNaN_sub_of_isFinite finiteX' finiteX,
      Binary64.isNaN_sub_of_isFinite finiteY' finiteY⟩
  exact ⟨definite atFirst, definite atSecond⟩

theorem representable_read {text : String} (points : (read text).scene.PointsRepresentable) :
    (read text).scene.clearDerived.Representable := by
  apply Representable.clearDerived
  intro e member
  rcases position_read points member with ⟨x, y, stands⟩ | nowhere
  · exact ⟨_, stands.position⟩
  · exact ⟨_, nowhere⟩

/-- A text is read into a scene that can be derived in the order in which it is declared. -/
theorem dependencyOrder_clearDerived_read (text : String) :
    (read text).scene.clearDerived.dependencyOrder =
      .ok (List.range (read text).scene.clearDerived.size) := by
  have same := outline_clearDerived (read text).scene
  rw [dependencyOrder_eq_of_outline same, size_eq_of_outline same,
    (declared_read text).dependencyOrder]

end Scene

namespace Stage

variable {text : String} {options : Options} {w h : Int} {st : Stage Recording}

theorem fault_clearAll_eq_none (size : st.OfSize w h) (width : w.natAbs < Num.integerBound)
    (height : h.natAbs < Num.integerBound) : (Surface.clearAll st.surface).fault = none := by
  rw [Recording.clearAll_of_size size.width size.height, Recording.clearEntry, Num.toFloat_zero,
    Num.toFloat_int width, Num.toFloat_int height]
  rfl

/-- What is no midpoint is found again in the scene that a frame leaves. -/
theorem mem_render (style : Style) (options : Options) {e : Entity}
    (member : e ∈ st.scene.entities) (independent : e.kind ≠ .midpoint) :
    e ∈ (st.render style options).state.scene.entities := by
  obtain ⟨i, position⟩ := List.getElem?_of_mem member
  obtain ⟨e', position', same⟩ := Scene.exists_of_clearDerived_eq
    (keeps_render style options st).scene.symm position
  exact Entity.eq_of_cleared_eq same independent ▸ List.mem_of_getElem? position'

/-- A frame that succeeds has found a double for every coordinate of a point. -/
theorem pointsRepresentable_of_render {style : Style} (read : st.scene = (Scene.read text).scene)
    (succeeds : (st.render style options).fault = none) : st.scene.PointsRepresentable := by
  intro e member isPoint
  have left := mem_render style options member (by simp [isPoint])
  have made := done_of_render succeeds left
  rw [Block.of_marker (.inl isPoint)] at made
  have placed := Block.position_of_marker (Drawing.result_of_fault_eq_none made)
  obtain ⟨i, position⟩ := List.getElem?_of_mem member
  rw [read] at position
  obtain ⟨_, origin⟩ := Scene.exists_origin position
  obtain ⟨x, y, -, values⟩ := origin.point isPoint
  rw [values, Values.exists_position_ofPoint_iff] at placed
  exact ⟨x, y, isPoint, values, placed.1, placed.2⟩

/-- A resolved frame that succeeds has found the size of every angle. -/
theorem armsDefinite_of_render {style : Style} (plain : style.Plain)
    (early : options.resolve = true) (succeeds : (st.render style options).fault = none) :
    (st.render style options).state.scene.ArmsDefinite := by
  intro e member vertex first second isAngle
  have made := done_of_render succeeds member
  simp only [shapeScene, if_pos early, Block.of, isAngle] at made
  exact Block.sized_iff.mp (Block.sized_of_angle plain (Drawing.result_of_fault_eq_none made))

/-- The marker of a point is found in one piece in a frame that succeeds. -/
theorem markerEntries_of_render {e : Entity} {p : Vec} (size : st.OfSize w h)
    (succeeds : (st.render .default options).fault = none) (member : e ∈ st.scene.entities)
    (isPoint : e.kind = .point) (position : e.values.position = .ok (some p)) :
    Block.markerEntries e.id p <:+: (st.render .default options).state.surface.entries := by
  have left := mem_render .default options member (by simp [isPoint])
  have shown : contribution .default options (st.render .default options).state.scene e =
      Block.markerEntries e.id p := by
    rw [contribution, blockEntries, Block.of_marker (.inl isPoint)]
    exact Block.entries_marker isPoint position
  have inLayer : Block.markerEntries e.id p <:+:
      blocksOf .default options (st.render .default options).state.scene [.point] := by
    rw [← shown, blocksOf, List.flatMap]
    apply List.infix_of_mem_flatten
    apply List.mem_map_of_mem
    exact List.mem_filter.mpr ⟨left, by simp [isPoint]⟩
  rw [entries_render size succeeds]
  apply inLayer.trans
  apply List.infix_cons
  exact (List.suffix_append _ _).isInfix.trans (List.prefix_append _ _).isInfix

/-- For every text, both ways of deriving and the default style: the frame is completed exactly if
doubles hold the coordinates of all points and, where midpoints are derived first, no angle has
NaN in one of its arms. A completed frame shows the marker and the label of every point. -/
theorem render_read (size : st.OfSize w h) (width : w.natAbs < Num.integerBound)
    (height : h.natAbs < Num.integerBound) (read : st.scene = (Scene.read text).scene) :
    ((st.render .default options).fault = none ↔
      st.scene.PointsRepresentable ∧
        (options.resolve = true → (st.scene.rederive options).state.ArmsDefinite)) ∧
    ((st.render .default options).fault = none →
      ∀ e ∈ st.scene.entities, e.kind = .point → ∃ x y, e.RepresentableAt x y ∧
        Block.markerEntries e.id ⟨Float.ofNat x, Float.ofNat y⟩ <:+:
          (st.render .default options).state.surface.entries) := by
  constructor
  · constructor
    · intro succeeds
      refine ⟨pointsRepresentable_of_render read succeeds, fun early => ?_⟩
      rw [scene_render succeeds]
      exact armsDefinite_of_render Style.plain_default early succeeds
    · rintro ⟨points, arms⟩
      rw [read] at points
      have ordered := Scene.dependencyOrder_clearDerived_read text
      apply render_of_representable Style.plain_default (fault_clearAll_eq_none size width height)
      · rw [read]
        exact Scene.representable_read points
      · intro _
        rw [read]
        exact ⟨_, ordered⟩
      · intro f derived e member vertex first second isAngle
        rw [derived] at arms
        rw [Block.sized_iff]
        have definite : (shapeScene options f).ArmsDefinite := by
          unfold shapeScene
          split
          · rename_i early
            exact arms early
          · rw [Scene.clearDerived_rederive derived, read]
            exact Scene.armsDefinite_clearDerived points
        exact definite e member vertex first second isAngle
  · intro succeeds e member isPoint
    obtain ⟨x, y, stands⟩ := pointsRepresentable_of_render read succeeds e member isPoint
    exact ⟨x, y, stands, markerEntries_of_render size succeeds member isPoint stands.position⟩

/-- A right angle is drawn with its three points. -/
theorem render_read_rightAngle :
    let text := "Point O (0, 0)\nPoint A (4, 0)\nPoint B (0, 3)\nAngle a O A B"
    let st : Stage Recording := ⟨{}, (Scene.read text).scene⟩
    (500 : Int).natAbs < Num.integerBound ∧
      (st.render .default { resolve := true }).fault = none ∧
      st.scene.PointsRepresentable ∧
      ∀ e ∈ st.scene.entities, e.kind = .point → ∃ x y, e.RepresentableAt x y ∧
        Block.markerEntries e.id ⟨Float.ofNat x, Float.ofNat y⟩ <:+:
          (st.render .default { resolve := true }).state.surface.entries := by
  intro text st
  have inRange : (500 : Int).natAbs < Num.integerBound := by decide +kernel
  have succeeds : (st.render .default { resolve := true }).fault = none := by decide +kernel
  have size : st.OfSize 500 500 := ⟨rfl, rfl⟩
  have read : st.scene = (Scene.read text).scene := rfl
  obtain ⟨completed, shown⟩ := render_read size inRange inRange read
  exact ⟨inRange, succeeds, (completed.mp succeeds).1, shown succeeds⟩

/-- A text of two points is read into the two. -/
theorem read_pointTexts {x y x' y' : Nat} (first : x < 10 ^ Statement.maxDigits)
    (second : y < 10 ^ Statement.maxDigits) (first' : x' < 10 ^ Statement.maxDigits)
    (second' : y' < 10 ^ Statement.maxDigits) :
    (Scene.read (String.ofList (Text.endLines
      [Entity.pointText "A" x y, Entity.pointText "B" x' y']))).scene =
      ⟨[{ id := "A", shape := .point, values := .ofPoint (.int x) (.int y), span := ⟨1, 1⟩ },
        { id := "B", shape := .point, values := .ofPoint (.int x') (.int y'), span := ⟨2, 1⟩ }]⟩ := by
  have isName : Text.IsName "A" := ⟨by decide, List.all_eq_true.mp (by decide)⟩
  have isName' : Text.IsName "B" := ⟨by decide, List.all_eq_true.mp (by decide)⟩
  rw [Scene.read, String.toList_ofList, Text.lines_endLines]
  · simp only [Reading.lines, Reading.next, Scene.declared?, Entity.ofTokens?,
      Entity.ofTokens?_pointText isName first second,
      Entity.ofTokens?_pointText isName' first' second']
    rfl
  · simp only [List.forall_mem_cons]
    exact ⟨Entity.isLineBreak_pointText isName, Entity.isLineBreak_pointText isName',
      fun _ member => absurd member List.not_mem_nil⟩

/-- A coordinate that no double holds cuts the frame short before any point is shown. -/
theorem render_cut_short :
    let text := String.ofList (Text.endLines
      [Entity.pointText "A" (10 ^ 309) 0, Entity.pointText "B" 1 2])
    let st : Stage Recording := ⟨{}, (Scene.read text).scene⟩
    (st.render .default {}).fault = some .integerTooLarge ∧
      (st.render .default {}).state.surface.entries = [.clear 0 0 500 500] := by
  intro text st
  have short : ∀ n ≤ 309, (10 ^ n : Nat) < 10 ^ Statement.maxDigits :=
    fun n le => Nat.pow_lt_pow_right (by decide) (Nat.lt_of_le_of_lt le (by decide))
  have small : ∀ n < 10, n < 10 ^ Statement.maxDigits :=
    fun n less => Nat.lt_of_lt_of_le less (short 1 (by decide)).le
  have scene := read_pointTexts (short 309 (by decide)) (small 0 (by decide)) (small 1 (by decide))
    (small 2 (by decide))
  simp only [st, text, scene]
  decide +kernel

end Stage

end Straightedge
