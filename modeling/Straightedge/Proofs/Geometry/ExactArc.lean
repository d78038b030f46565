import Mathlib.Algebra.Order.Floor.Ring
import Mathlib.Algebra.Order.Group.MinMax
import Mathlib.Tactic.Linarith
import Mathlib.Tactic.Ring
import Straightedge.Canvas.Arc
import Straightedge.Geometry.Construct
import Straightedge.Proofs.Geometry.Sweep
import Straightedge.Proofs.Result

/-!
# Arcs in exact arithmetic

The rules for arcs are written over any kind of number that knows a full turn. Over
exact numbers they keep without rounding what they promise: the arc of an angle runs
from one direction to the other by the smaller of the two ways between them, and it is
sampled evenly over exactly this way. A frame follows the same rules with doubles, and
labels an angle with the size of the arc that it draws.
-/

namespace Straightedge

namespace Turn

/-- The angles at which an arc is drawn clockwise from its start to its end. -/
def clockwise {α : Type} (t : Turn α) (start stop : α) (steps : Nat) : List α :=
  t.samples start (t.reduce (t.sub stop start)) steps

section Unrounded

variable {K : Type} [Field K] [LinearOrder K] [FloorRing K]

/-- Exact angles, with a full turn of any size. -/
def unrounded (turn : K) : Turn K where
  zero := 0
  half := turn / 2
  full := turn
  add := (· + ·)
  sub := (· - ·)
  neg := (- ·)
  lt a b := a < b
  le a b := a ≤ b
  remainder a := a - turn * ⌊a / turn⌋
  part a n := a / n
  times n a := n * a

variable {turn a b start sweep : K} {n i : Nat}

/-- The ends of an arc, from how far it is from the first direction to the second. -/
theorem arc_unrounded (turn a b : K) :
    (unrounded turn).arc a b =
      let gap := if b - a < 0 then b - a + turn else b - a
      if turn / 2 < gap then (b, b + (unrounded turn).remainder (a + turn - b))
      else (a, a + (unrounded turn).remainder (b - a)) := by
  have rule : (unrounded turn).arc a b =
      let gap := if decide (b - a < 0) then b - a + turn else b - a
      let ends := if decide (turn / 2 < gap) then (b, a + turn) else (a, b)
      (ends.1, ends.1 + (unrounded turn).remainder (ends.2 - ends.1)) := rfl
  rw [rule]
  simp only [decide_eq_true_eq]
  split_ifs <;> rfl

/-- The marks of a sweep lie evenly between nothing and the whole of it. -/
theorem getElem?_samples_unrounded (nonempty : (n : K) ≠ 0) (within : i ≤ n) :
    ((unrounded turn).samples start sweep n)[i]? = some (start + i * (sweep / n)) := by
  have rule : (unrounded turn).samples start sweep n =
      ((List.range n).map (fun j : Nat => (j : K) * (sweep / n)) ++ [sweep]).map (start + ·) := rfl
  rw [rule, List.getElem?_map, List.getElem?_append, List.length_map, List.length_range]
  obtain before | rfl := within.lt_or_eq
  · simp [before]
  · rw [if_neg (lt_irrefl _), Nat.sub_self, List.getElem?_cons_zero, Option.map_some,
      mul_div_cancel₀ sweep nonempty]

variable [IsStrictOrderedRing K]

/-- The remainder is the one angle within a full turn that differs by full turns. -/
theorem remainder_unrounded (positive : 0 < turn) (k : ℤ) (notNegative : 0 ≤ a - turn * k)
    (within : a - turn * k < turn) : (unrounded turn).remainder a = a - turn * k := by
  have floor : ⌊a / turn⌋ = k := by
    rw [Int.floor_eq_iff, le_div_iff₀ positive, div_lt_iff₀ positive]
    constructor <;> linarith
  rw [← floor]
  rfl

/-- What is less than a full turn is all that an arc sweeps. -/
theorem reduce_unrounded (positive : 0 < turn) (notNegative : 0 ≤ a) (within : a < turn) :
    (unrounded turn).reduce a = a := by
  have rule : (unrounded turn).reduce a =
      if decide (turn ≤ a) then turn else (unrounded turn).remainder a := rfl
  rw [rule, if_neg (by simpa using within),
    remainder_unrounded positive 0 (by simpa using notNegative) (by simpa using within)]
  simp

/-- An arc runs from one of two directions by the smaller way between them, and so ends at the
other one, up to full turns. -/
structure Joins (turn a b : K) (arc : K × K) : Prop where
  size : arc.2 - arc.1 = min |b - a| (turn - |b - a|)
  ends : (arc.1 = a ∧ ∃ k : ℤ, arc.2 = b + k * turn) ∨
    (arc.1 = b ∧ ∃ k : ℤ, arc.2 = a + k * turn)

/-- From one direction it is a turn at most to the other one, and the smaller of the two ways
between them is the same whichever of the directions comes first. -/
theorem gap_unrounded (first : |a| ≤ turn / 2) (second : |b| ≤ turn / 2) :
    ∃ k : ℤ, (if b - a < 0 then b - a + turn else b - a) = b - a + turn * k ∧
      0 ≤ b - a + turn * k ∧ b - a + turn * k ≤ turn ∧
      min (b - a + turn * k) (turn - (b - a + turn * k)) = min |b - a| (turn - |b - a|) := by
  obtain ⟨lower, upper⟩ := abs_le.mp first
  obtain ⟨lower', upper'⟩ := abs_le.mp second
  by_cases back : b - a < 0
  · refine ⟨1, ?_⟩
    rw [if_pos back, Int.cast_one, mul_one, abs_of_neg back]
    refine ⟨rfl, by linarith, by linarith, ?_⟩
    rw [min_comm]
    congr 1 <;> ring
  · refine ⟨0, ?_⟩
    rw [if_neg back, Int.cast_zero, mul_zero, add_zero, abs_of_nonneg (not_lt.mp back)]
    exact ⟨rfl, not_lt.mp back, by linarith, rfl⟩

/-- The arc starts at the second direction when the way from the first to it is more than half a
turn, and then takes what is left of the turn. -/
theorem joins_arc (positive : 0 < turn) (first : |a| ≤ turn / 2) (second : |b| ≤ turn / 2) :
    Joins turn a b ((unrounded turn).arc a b) := by
  obtain ⟨k, gap, notNegative, within, smaller⟩ := gap_unrounded first second
  rw [arc_unrounded]
  simp only [gap]
  by_cases far : turn / 2 < b - a + turn * k
  · have rest : (unrounded turn).remainder (a + turn - b) = a + turn - b - turn * k :=
      remainder_unrounded positive k (by linarith) (by linarith)
    rw [if_pos far, rest]
    refine ⟨?_, .inr ⟨rfl, 1 - k, by push_cast; ring⟩⟩
    rw [← smaller, min_eq_right (by linarith)]
    ring
  · have whole : (unrounded turn).remainder (b - a) = b - a - turn * (-k : ℤ) :=
      remainder_unrounded positive (-k) (by push_cast; linarith) (by push_cast; linarith)
    rw [if_neg far, whole]
    refine ⟨?_, .inl ⟨rfl, k, by push_cast; ring⟩⟩
    rw [← smaller, min_eq_left (by linarith)]
    push_cast
    ring

/-- The smaller way between two directions is half a turn at most. -/
theorem Joins.size_mem {arc : K × K} (joins : Joins turn a b arc) (first : |a| ≤ turn / 2)
    (second : |b| ≤ turn / 2) : 0 ≤ arc.2 - arc.1 ∧ arc.2 - arc.1 ≤ turn / 2 := by
  obtain ⟨lower, upper⟩ := abs_le.mp first
  obtain ⟨lower', upper'⟩ := abs_le.mp second
  have apart : |b - a| ≤ turn := abs_le.mpr ⟨by linarith, by linarith⟩
  rw [joins.size]
  constructor
  · exact le_min (abs_nonneg _) (by linarith)
  · obtain near | far := le_total |b - a| (turn / 2)
    · exact (min_le_left _ _).trans near
    · exact (min_le_right _ _).trans (by linarith)

end Unrounded

end Turn

/-! ## The same rules with doubles -/

/-- Doubles in the order of numbers are in that of doubles. -/
theorem Num.le_of_le_real {x y : Float} (ordered : Num.le (.real x) (.real y) = true) : x ≤ y := by
  rw [Binary64.le_iff, Float.Model.UnpackedFloat.le]
  by_cases less : x < y
  · rw [Binary64.lt_iff, Float.Model.UnpackedFloat.lt, beq_iff_eq] at less
    rw [less]
    rfl
  by_cases greater : y < x
  · simp [Num.le, Num.compare?, less, greater] at ordered
  · have equal : (x == y) = true := by
      by_contra different
      simp [Num.le, Num.compare?, less, greater, different] at ordered
    have compared : x.toModel.unpack.compare y.toModel.unpack = some .eq := beq_iff_eq.mp equal
    rw [compared]
    rfl

/-- Clockwise, an arc of doubles sweeps by the difference of its ends, reduced. -/
theorem Arc.sweep_real (start stop : Float) :
    Arc.sweep (.real start) (.real stop) false = .ok (Turn.radians.reduce (stop - start)) := by
  have rule : Arc.sweep (.real start) (.real stop) false = do
      let size ← if Num.le (.real Turn.radians.full) (.real (stop - start))
        then pure Turn.radians.full else .ok (Turn.radians.reduce (stop - start))
      return size := rfl
  rw [rule]
  split
  · rename_i whole
    have full : Turn.radians.le Turn.radians.full (stop - start) = true :=
      decide_eq_true (Num.le_of_le_real whole)
    rw [Turn.reduce, if_pos full]
    rfl
  · rfl

/-- An arc of doubles is drawn through the points at its angles. -/
theorem Arc.points_real (x y radius start stop : Float) (step : Num) :
    Arc.points (.real x) (.real y) (.real radius) (.real start) (.real stop) false step = do
      let n ← Arc.steps (Turn.radians.reduce (stop - start)) step
      return (Turn.radians.clockwise start stop n).map fun a =>
        ⟨x + radius * a.cos, y + radius * a.sin⟩ := by
  rw [Arc.points, Arc.sweep_real]
  rfl

namespace Construct

/-- An angle is drawn and labelled by the rules for arcs, with doubles: its arc is that between the
directions of its arms, its label is the size of this arc, and whoever draws it clockwise samples
it from its start by the same size, reduced. -/
structure AngleArc.ByRules (arc : AngleArc) (first second : Vec) : Prop where
  ends : (arc.start, arc.stop) = Turn.radians.arc first.angle second.angle
  label : wholeDegrees (Turn.radians.sub arc.stop arc.start) = .ok arc.degrees
  drawn : ∀ (x y radius : Float) (step : Num),
    Arc.points (.real x) (.real y) (.real radius) (.real arc.start) (.real arc.stop) false step = do
      let n ← Arc.steps (Turn.radians.reduce (Turn.radians.sub arc.stop arc.start)) step
      return (Turn.radians.clockwise arc.start arc.stop n).map fun a =>
        ⟨x + radius * a.cos, y + radius * a.sin⟩

theorem byRules_angleArc {vertex first second : Vec} {radius offset : Num} {arc : AngleArc}
    (made : angleArc vertex first second radius offset = .ok arc) :
    arc.ByRules (first - vertex) (second - vertex) := by
  obtain ⟨degrees, size, rest⟩ := Result.bind_eq_ok_iff.mp made
  obtain ⟨reach, -, rest⟩ := Result.bind_eq_ok_iff.mp rest
  obtain ⟨length, -, rest⟩ := Result.bind_eq_ok_iff.mp rest
  obtain rfl := Except.ok.inj rest
  exact ⟨rfl, size, fun x y radius step => Arc.points_real x y radius _ _ step⟩

end Construct

namespace Turn

/-- The arc of an angle is the smaller one, and it is drawn as it is labelled. Between any two
directions within half a turn either way, it starts at one of them and ends at the other one up to
full turns, after the smaller of the two ways between them, which is half a turn at most and the
same from the second to the first. Drawn clockwise with any number of steps, it is sampled evenly
from its start to its end, over exactly this way. Frames draw and label their angles by the same
rules, with doubles. -/
theorem arc_drawn_unrounded {K : Type} [Field K] [LinearOrder K] [FloorRing K]
    [IsStrictOrderedRing K] {turn a b : K} (positive : 0 < turn) (first : |a| ≤ turn / 2)
    (second : |b| ≤ turn / 2) :
    let arc := (unrounded turn).arc a b
    let size := arc.2 - arc.1
    Joins turn a b arc ∧ 0 ≤ size ∧ size ≤ turn / 2 ∧
    ((unrounded turn).arc b a).2 - ((unrounded turn).arc b a).1 = size ∧
    (unrounded turn).reduce size = size ∧
    (∀ steps : Nat, 0 < steps →
      let drawn := (unrounded turn).clockwise arc.1 arc.2 steps
      drawn.length = steps + 1 ∧ drawn.head? = some arc.1 ∧ drawn.getLast? = some arc.2 ∧
        ∀ i ≤ steps, drawn[i]? = some (arc.1 + i * (size / steps))) ∧
    ∀ (vertex p q : Vec) (radius offset : Num) (made : Construct.AngleArc),
      Construct.angleArc vertex p q radius offset = .ok made →
        made.ByRules (p - vertex) (q - vertex) := by
  intro arc size
  have joins : Joins turn a b arc := joins_arc positive first second
  obtain ⟨notNegative, half⟩ := joins.size_mem first second
  have swapped : ((unrounded turn).arc b a).2 - ((unrounded turn).arc b a).1 = size := by
    rw [(joins_arc positive second first).size, abs_sub_comm a b]
    exact joins.size.symm
  have whole : (unrounded turn).reduce size = size :=
    reduce_unrounded positive notNegative (half.trans_lt (by linarith))
  refine ⟨joins, notNegative, half, swapped, whole, ?_,
    fun _ _ _ _ _ _ => Construct.byRules_angleArc⟩
  intro steps some drawn
  have even : ∀ i ≤ steps, drawn[i]? = Option.some (arc.1 + i * (size / steps)) := by
    intro i within
    have cut : drawn = (unrounded turn).samples arc.1 ((unrounded turn).reduce size) steps := rfl
    rw [cut, whole, getElem?_samples_unrounded (Nat.cast_ne_zero.mpr some.ne') within]
  have length : drawn.length = steps + 1 := length_samples _ _ _ _
  refine ⟨length, ?_, ?_, even⟩
  · rw [List.head?_eq_getElem?, even 0 (Nat.zero_le steps)]
    simp
  · rw [List.getLast?_eq_getElem?, length, Nat.add_sub_cancel, even steps le_rfl,
      mul_div_cancel₀ size (Nat.cast_ne_zero.mpr some.ne'), add_sub_cancel]

/-- Directions on either side of the cut: the arc starts at the second and runs on across it. -/
theorem arc_drawn_unrounded_cut :
    let arc := (unrounded (360 : ℚ)).arc (-170) 180
    arc = (180, 190) ∧ Joins (360 : ℚ) (-170) 180 arc ∧
      (unrounded (360 : ℚ)).clockwise arc.1 arc.2 2 = [180, 185, 190] := by
  intro arc
  have values : arc = (180, 190) := by decide +kernel
  have first : |(-170 : ℚ)| ≤ 360 / 2 := by norm_num [abs_le]
  have second : |(180 : ℚ)| ≤ 360 / 2 := by norm_num [abs_le]
  obtain ⟨joins, -⟩ := arc_drawn_unrounded (by norm_num) first second
  exact ⟨values, joins, by decide +kernel⟩

end Turn

end Straightedge
