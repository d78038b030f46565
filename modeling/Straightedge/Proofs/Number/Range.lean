import Mathlib.Data.Nat.Basic
import Straightedge.Number.Basic

/-!
# Integers within the range of doubles

An integer below the bound has a double, whatever its sign.
-/

namespace Straightedge.Num

theorem integerBound_pos : 0 < integerBound := by
  unfold integerBound
  apply Nat.sub_pos_of_lt
  apply Nat.pow_lt_pow_right
  · decide
  · decide

theorem toFloat_int_eq_ok_iff {i : Int} {x : Float} :
    (int i).toFloat = .ok x ↔ i.natAbs < integerBound ∧ x = Float.ofInt i := by
  by_cases inRange : i.natAbs < integerBound
  · simp [toFloat, inRange, eq_comm]
  · simp [toFloat, inRange]

theorem toFloat_int {i : Int} (inRange : i.natAbs < integerBound) :
    (int i).toFloat = .ok (Float.ofInt i) :=
  toFloat_int_eq_ok_iff.mpr ⟨inRange, rfl⟩

theorem toFloat_zero : (0 : Num).toFloat = .ok 0 := toFloat_int integerBound_pos

theorem exists_toFloat_zero : ∃ x, (0 : Num).toFloat = .ok x := ⟨0, toFloat_zero⟩

end Straightedge.Num
