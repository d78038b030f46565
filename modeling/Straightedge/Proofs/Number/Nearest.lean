import Straightedge.Proofs.Number.Magnitude
import Straightedge.Proofs.Number.Range

/-!
# The doubles nearest to natural numbers

A natural number below the bound is rounded to a finite double: the bound is half a
unit above the largest of them.
-/

namespace Straightedge.Num

theorem log2_integerBound : integerBound.log2 = 1023 := by decide +kernel

/-- The bound is half a unit of the largest binade below a power of two. -/
theorem integerBound_mul : 2 ^ 1023 * (2 ^ 54 - 1) = integerBound * 2 ^ 53 := by decide +kernel

end Straightedge.Num

namespace Straightedge.Binary64

open Float.Model (Format totalExponent)
open Float.Model.UnpackedFloat

variable {m n : Nat} {e : Int}

/-- Rounding to the nearest integer adds half a unit at most. -/
theorem two_mul_roundedMantissa_le (em : ExtendedMantissa) (s : Nat) :
    2 * (em >>> (s + 1)).roundedMantissa ≤ em.mantissa / 2 ^ s + 1 := by
  have last : em >>> (s + 1) = (em >>> s).shiftRightOne := rfl
  rw [last, ← mantissa_shiftRight]
  obtain ⟨m, roundBit, stickyBit⟩ := em >>> s
  change 2 * _ ≤ m + 1
  rcases Nat.mod_two_eq_zero_or_one m with even | odd
  · have down :
        (ExtendedMantissa.mk m roundBit stickyBit).shiftRightOne.roundedMantissa = m / 2 := by
      cases roundBit <;> cases stickyBit <;>
        simp [ExtendedMantissa.shiftRightOne, ExtendedMantissa.roundedMantissa,
          ExtendedMantissa.accuracy, Accuracy.roundToNearestEven, even]
    omega
  · have up := roundedMantissa_le (ExtendedMantissa.mk m roundBit stickyBit).shiftRightOne
    change _ ≤ m / 2 + 1 at up
    omega

/-- A mantissa that is rounded within the largest binade is not too large for a double. -/
theorem below_pack_roundWithAccuracy {sign : Sign} {a : Accuracy}
    (fits : (shiftToTargetExponent Format.binary64 m e a).2 ≤ 971)
    (under : Under 1024 (shiftToTargetExponent Format.binary64 m e a).1.roundedMantissa
      (shiftToTargetExponent Format.binary64 m e a).2) :
    Below 1024 (Float.Model.pack (roundWithAccuracy Format.binary64 sign m e a)).unpack := by
  have second := under_shiftToTargetExponent under .exact
  simp only [roundWithAccuracy]
  generalize (shiftToTargetExponent Format.binary64 m e a).1.roundedMantissa = rounded at *
  generalize (shiftToTargetExponent Format.binary64 m e a).2 = exponent at *
  split
  · exact Below.mono (below_unpack_pack (k := 971) (x := .zero sign) trivial (by decide)
      (by decide)) (by decide)
  · rename_i notZero
    apply below_unpack_pack_finite second (by decide)
    have pos : 0 < rounded := by
      by_contra none
      apply notZero
      simp only [shiftToTargetExponent, shiftToExponent, mantissa_shiftRight,
        mantissa_ofMantissaAndAccuracy, Nat.eq_zero_of_not_pos none, Nat.zero_div]
    have total := Under.log2 under pos
    simp only [shiftToTargetExponent, shiftToExponent, targetExponent_binary64]
    omega

/-- A natural number is rounded once. -/
theorem ofScientific_zero (pos : 0 < n) :
    Float.Model.UnpackedFloat.ofScientific Format.binary64 n 0 =
      roundWithAccuracy Format.binary64 .positive (n * 2 ^ 53) (-53) .exact := by
  have notSmall : ¬(0 : Int) < -(2 ^ Format.binary64.exponentBits + n.log2) := by
    have := Int.pow_nonneg (m := Format.binary64.exponentBits) (show (0 : Int) ≤ 2 by decide)
    omega
  rw [Float.Model.UnpackedFloat.ofScientific, dif_neg (Nat.ne_of_gt pos), if_neg (by decide),
    if_neg notSmall, if_pos (Int.le_refl 0)]
  simp only [mul, Int.toNat_zero, Nat.pow_zero, Nat.mul_one, Nat.shiftLeft_eq]
  rfl

theorem log2_mul_two_pow (pos : 0 < n) (k : Nat) : (n * 2 ^ k).log2 = n.log2 + k := by
  rw [Nat.log2_eq_iff (Nat.ne_of_gt (Nat.mul_pos pos (Nat.two_pow_pos k))), Nat.add_right_comm,
    Nat.pow_add, Nat.pow_add]
  constructor
  · exact Nat.mul_le_mul_right _ (Nat.log2_self_le (Nat.ne_of_gt pos))
  · exact Nat.mul_lt_mul_of_pos_right Nat.lt_log2_self (Nat.two_pow_pos k)

theorem below_ofScientific_zero (pos : 0 < n) (h : n < Num.integerBound) :
    Below 1024 (Float.Model.pack
      (Float.Model.UnpackedFloat.ofScientific Format.binary64 n 0)).unpack := by
  rw [ofScientific_zero pos]
  have log : (n * 2 ^ 53).log2 = n.log2 + 53 := log2_mul_two_pow pos 53
  have bits : n.log2 ≤ 1023 := by
    rw [← Num.log2_integerBound, Nat.log2_eq_log_two, Nat.log2_eq_log_two]
    exact Nat.log_mono_right (Nat.le_of_lt h)
  have exponent : (shiftToTargetExponent Format.binary64 (n * 2 ^ 53) (-53) .exact).2 =
      n.log2 - 52 := by
    simp only [shiftToTargetExponent, shiftToExponent, targetExponent_binary64, totalExponent, log]
    omega
  apply below_pack_roundWithAccuracy
  · omega
  rw [exponent]
  rcases Nat.lt_or_eq_of_le bits with lower | top
  · -- Below the largest binade, rounding up may reach the next one.
    have under : Under (n.log2 + 1) (n * 2 ^ 53) (-53) := by
      have split : (((n.log2 : Int) + 1) - -53).toNat = (n.log2 + 1) + 53 := by omega
      rw [Under, split, Nat.pow_add]
      exact Nat.mul_lt_mul_of_pos_right Nat.lt_log2_self (Nat.two_pow_pos 53)
    have first := under_shiftToTargetExponent under .exact
    rw [exponent] at first
    exact ((first.succ (by omega)).of_le (roundedMantissa_le _)).mono (by omega)
  · -- In the largest one the bound is half a unit above the largest mantissa.
    have shift : (shiftToTargetExponent Format.binary64 (n * 2 ^ 53) (-53) .exact).1 =
        ExtendedMantissa.ofMantissaAndAccuracy (n * 2 ^ 53) .exact >>> (1023 + 1) := by
      simp only [shiftToTargetExponent, shiftToExponent, targetExponent_binary64, totalExponent,
        log, top]
      rfl
    have half : n * 2 ^ 53 / 2 ^ 1023 < 2 ^ 54 - 1 := by
      apply Nat.div_lt_of_lt_mul
      rw [Num.integerBound_mul]
      exact Nat.mul_lt_mul_of_pos_right h (Nat.two_pow_pos 53)
    have nearest := two_mul_roundedMantissa_le
      (ExtendedMantissa.ofMantissaAndAccuracy (n * 2 ^ 53) .exact) 1023
    rw [← shift, mantissa_ofMantissaAndAccuracy] at nearest
    rw [top]
    change _ < 2 ^ 53
    omega

/-- Below the bound of integers, the double nearest to a natural number is finite. -/
theorem isFinite_ofNat (h : n < Num.integerBound) : (Float.ofNat n).isFinite = true := by
  change (Float.ofScientific n false 0).isFinite = true
  by_cases short : n < 2 ^ 53
  · have whole : Small 54 n.toUInt64.toFloat := by
      apply below_unpack_pack _ (by decide) (by decide)
      apply below_normalize (k := 53) _ (by decide)
      exact (Nat.mod_le _ _).trans_lt short
    have unit : Small 1 (Float.ofBits 4607182418800017408) := by decide +kernel
    rw [Float.ofScientific, dif_pos ⟨short, Nat.zero_le _⟩]
    exact (whole.mul unit (by decide) (by decide)).isFinite
  · rw [Float.ofScientific, dif_neg (fun both => short both.1)]
    have large : Small 1024 ⟨Float.Model.ofScientific n 0⟩ := below_ofScientific_zero (by omega) h
    exact large.isFinite

end Straightedge.Binary64
