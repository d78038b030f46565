import Straightedge.Geometry.Construct
import Straightedge.Proofs.Number.NaN

/-!
# The sizes of angles

A direction is within a half turn either way, or NaN where a component of its vector
is. So the smaller angle between two directions is a finite double, which can be
made an integer, or it is NaN, which cannot.
-/

namespace Straightedge

namespace Binary64

open Float.Model (Format)
open Float.Model.UnpackedFloat

variable {x y : Float} {k : Int}

theorem unpack_pi :
    ∃ pos, pi.toModel.unpack = .finite .positive 7074237752028440 (-51) pos :=
  ⟨by decide, by rfl⟩

theorem unpack_neg_pi :
    ∃ pos, (-pi).toModel.unpack = .finite .negative 7074237752028440 (-51) pos :=
  ⟨by decide, by rfl⟩

theorem le_iff : x ≤ y ↔ x.toModel.unpack.le y.toModel.unpack = true := decide_eq_true_iff

theorem lt_iff : x < y ↔ x.toModel.unpack.lt y.toModel.unpack = true := decide_eq_true_iff

theorem mantissa_lt {sign : Sign} {m : Nat} {e : Int} {pos : 0 < m}
    (h : x.toModel.unpack = .finite sign m e pos) : m < 2 ^ 53 := by
  have fraction : (@unpackMantissa Format.binary64 x.toModel.toBits.toBitVec).toNat <
      2 ^ 52 := BitVec.isLt _
  unfold Float.Model.unpack unpack at h
  simp only at h
  split at h
  · split at h <;> cases h
  · split at h
    · split at h
      · cases h
      · injection h with _ same
        omega
    · injection h with _ same
      have whole := toNat_one_append (@unpackMantissa Format.binary64
        x.toModel.toBits.toBitVec)
      rw [← same]
      exact whole.trans_lt (by omega)

/-- Doubles between a half turn either way are small. -/
theorem small_of_between (above : -pi ≤ x) (below : ¬pi < x) : Small 2 x := by
  obtain ⟨_, upper⟩ := unpack_pi
  obtain ⟨_, lower⟩ := unpack_neg_pi
  rw [lt_iff, upper] at below
  rw [le_iff, lower] at above
  unfold Small
  cases unpacked : x.toModel.unpack with
  | notANumber =>
      rw [unpacked] at above
      cases above
  | infinity sign =>
      rw [unpacked] at below above
      cases sign with
      | positive => exact absurd rfl below
      | negative => cases above
  | zero => trivial
  | finite sign m e pos =>
      -- Doubles of one sign are ordered by their exponents first.
      have low : e ≤ -51 := by
        rw [unpacked] at below above
        by_contra high
        have less : compare (-51) e = .lt := Int.compare_eq_lt.mpr (by omega)
        cases sign with
        | positive =>
            apply below
            change (some ((compare (-51) e).then (compare 7074237752028440 m)) == some .lt) = true
            rw [less]
            rfl
        | negative =>
            change ((compare (-51) e).then (compare 7074237752028440 m)).swap.isLE = true at above
            rw [less] at above
            cases above
      exact Nat.lt_of_lt_of_le (mantissa_lt unpacked) (Nat.pow_le_pow_right (by decide) (by omega))

theorem small_of_eq_zero (k : Int) (isZero : (x == 0) = true) : Small k x := by
  obtain rfl | ⟨rfl, -⟩ | ⟨rfl, -⟩ := (Float.beq_iff_ne_nan_and_eq.mp isZero).2.2
  all_goals trivial

/-- The direction of a vector is within a half turn either way. -/
theorem small_direction (definite : y.isNaN = false) (definite' : x.isNaN = false) :
    Small 2 (direction y x) := by
  unfold direction
  simp only [definite, definite', Bool.or_self, Bool.false_eq_true, if_false]
  split
  · rename_i level
    split
    · split <;> decide +kernel
    · exact small_of_eq_zero 2 level
  split
  · split <;> decide +kernel
  split
  · decide +kernel
  · rename_i notAbove
    split
    · rename_i above
      exact small_of_between above notAbove
    · decide +kernel

theorem isNaN_direction (indefinite : y.isNaN = true ∨ x.isNaN = true) :
    (direction y x).isNaN = true := by
  have either : (y.isNaN || x.isNaN) = true := by simpa using indefinite
  rw [direction, if_pos either]
  decide +kernel

/-! ## Remainders by a full turn -/

/-- A full turn is `7074237752028440 * 2 ^ -50`. -/
theorem parts_fullTurn : parts? (2 * pi) = some ⟨7074237752028440, -50⟩ := by decide +kernel

theorem small_fullTurn : Small 3 (2 * pi) := by decide +kernel

/-- What is left by full turns is less than one. -/
theorem small_remainder_fullTurn (p : Parts) :
    Small 4 (p.remainder ⟨7074237752028440, -50⟩) := by
  obtain ⟨n, unit⟩ : ∃ n : Nat, min p.exponent (-50) = -(n : Int) :=
    ⟨(-min p.exponent (-50)).toNat, by omega⟩
  simp only [Parts.remainder, unit]
  apply small_ofDyadic (c := 3) _ (by omega) (by omega)
  have turn : 0 < Int.natAbs 7074237752028440 * Nat.pow 2 (-50 - -(n : Int)).toNat :=
    Nat.mul_pos (by decide) (Nat.two_pow_pos _)
  calc _ < Int.natAbs 7074237752028440 * Nat.pow 2 (-50 - -(n : Int)).toNat := Nat.mod_lt _ turn
    _ ≤ 2 ^ 53 * 2 ^ (-50 - -(n : Int)).toNat := Nat.mul_le_mul_right _ (by decide)
    _ = 2 ^ (3 + n) := by
        rw [← Nat.pow_add]
        congr 1
        omega

theorem small_remainder (h : Small k x) : Small 6 (remainder x (2 * pi)) := by
  obtain ⟨p, parts⟩ := h.exists_parts
  have left := small_remainder_fullTurn p
  simp only [remainder, parts, parts_fullTurn]
  rw [if_neg (by decide)]
  split
  · decide +kernel
  split
  · exact (left.neg (by decide) (by decide)).add (small_fullTurn.mono (by decide)) (by decide)
      (by decide)
  · exact left.mono (by decide)

end Binary64

/-- The arc runs from the first direction to the second, or on from the second to the first. -/
theorem Turn.arc_eq_or {α : Type} (t : Turn α) (first second : α) :
    t.arc first second = (first, t.add first (t.remainder (t.sub second first))) ∨
    t.arc first second =
      (second, t.add second (t.remainder (t.sub (t.add first t.full) second))) := by
  simp only [arc]
  generalize t.lt t.half _ = around
  cases around with
  | false => exact .inl rfl
  | true => exact .inr rfl

namespace Vec

/-- A vector with NaN for a component. -/
def Indefinite (a : Vec) : Prop := a.x.isNaN = true ∨ a.y.isNaN = true

instance (a : Vec) : Decidable a.Indefinite := inferInstanceAs (Decidable (_ ∨ _))

end Vec

namespace Construct

open Binary64

variable {a b : Vec}

/-- How far an arc sweeps is small if it is between directions that are. -/
theorem small_sub_start {start stop : Float} (h : Small 5 start) (h' : Small 5 stop) :
    Small 10 (start + remainder (stop - start) (2 * pi) - start) := by
  have wide : Small 6 start := h.mono (by decide)
  have gap : Small 7 (stop - start) := h'.sub h (by decide) (by decide)
  have rest : Small 6 (remainder (stop - start) (2 * pi)) := small_remainder gap
  have reached : Small 8 (start + remainder (stop - start) (2 * pi)) :=
    wide.add rest (by decide) (by decide)
  exact reached.sub (wide.mono (by decide)) (by decide) (by decide)

/-- The smaller angle between two directions within a half turn is finite. -/
theorem small_arc {first second : Float} (h : Small 2 first) (h' : Small 2 second) :
    Small 10 ((Turn.radians.arc first second).2 - (Turn.radians.arc first second).1) := by
  have turned : Small 5 (first + 2 * pi) :=
    (h.mono (by decide)).add small_fullTurn (by decide) (by decide)
  rcases Turn.radians.arc_eq_or first second with direct | around
  · rw [direct]
    exact small_sub_start (h.mono (by decide)) (h'.mono (by decide))
  · rw [around]
    exact small_sub_start (h'.mono (by decide)) turned

theorem exists_wholeDegrees {x : Float} (h : Small 10 x) :
    ∃ degrees, wholeDegrees x = .ok degrees := by
  have unit : Small 6 (180 / pi) := by decide +kernel
  have half : Small 17 0.5 := by decide +kernel
  have inDegrees : Small 17 (x * (180 / pi)) := h.mul unit (by decide) (by decide)
  obtain ⟨p, parts⟩ := (inDegrees.add half (by decide) (by decide)).exists_parts
  exact ⟨p.floor, by simp only [wholeDegrees, floor, parts]⟩

theorem wholeDegrees_of_isNaN {x : Float} (h : x.isNaN = true) :
    wholeDegrees x = .error .integerOfNaN := by
  have indefinite : (x * (180 / pi) + 0.5).isNaN = true := isNaN_add_left (isNaN_mul_left h)
  simp only [wholeDegrees, floor, parts?_of_isNaN indefinite, integerFault, if_pos indefinite]

/-- NaN for one of the directions is NaN for the angle. -/
theorem isNaN_arc {first second : Float} (h : first.isNaN = true ∨ second.isNaN = true) :
    ((Turn.radians.arc first second).2 - (Turn.radians.arc first second).1).isNaN = true := by
  have gap : (second - first).isNaN = true :=
    h.elim isNaN_sub_right isNaN_sub_left
  have noRemainder : (remainder (second - first) (2 * pi)).isNaN = true := by
    have undefined : ((0 : Float) / 0).isNaN = true := by decide +kernel
    simpa only [remainder, parts?_of_isNaN gap] using undefined
  have start : (Turn.radians.arc first second) =
      (first, first + remainder (second - first) (2 * pi)) := by
    simp only [Turn.arc, Turn.radians, (not_lt_of_isNaN gap).1, (not_lt_of_isNaN gap).2,
      decide_false, Bool.false_eq_true, if_false]
  rw [start]
  exact isNaN_sub_left (isNaN_add_right noRemainder)

/-- The angle between two arms has a size in whole degrees unless one of them has NaN for a
component. -/
theorem exists_wholeDegrees_iff :
    (∃ degrees, wholeDegrees ((Turn.radians.arc a.angle b.angle).2 -
      (Turn.radians.arc a.angle b.angle).1) = .ok degrees) ↔
      ¬a.Indefinite ∧ ¬b.Indefinite := by
  constructor
  · rintro ⟨degrees, size⟩
    by_contra indefinite
    have either : a.angle.isNaN = true ∨ b.angle.isNaN = true := by
      rw [not_and_or, not_not, not_not] at indefinite
      exact indefinite.imp (fun h => isNaN_direction h.symm) (fun h => isNaN_direction h.symm)
    rw [wholeDegrees_of_isNaN (isNaN_arc either)] at size
    cases size
  · rintro ⟨definite, definite'⟩
    rw [Vec.Indefinite, not_or, Bool.not_eq_true, Bool.not_eq_true] at definite definite'
    exact exists_wholeDegrees (small_arc (small_direction definite.2 definite.1)
      (small_direction definite'.2 definite'.1))

end Construct

end Straightedge
