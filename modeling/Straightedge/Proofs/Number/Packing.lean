import Straightedge.Number.Basic
import Straightedge.Proofs.Number.NaN

/-!
# Doubles packed again

A double other than NaN is told by its sign, its exponent and its mantissa, so it is
packed again as it was unpacked. Zero added to it is therefore the same double, up to
the sign of a zero, and compares as equal.
-/

namespace Straightedge.Binary64

open Float.Model (Format)
open Float.Model.UnpackedFloat

variable {x y : Float}

theorem toBitVec_ofBitVec (b : BitVec 1) : (Sign.ofBitVec b).toBitVec = b := by
  revert b
  decide

/-- A double is put together again from its components. -/
theorem packComponents_unpack (b : BitVec Format.binary64.numBits) :
    packComponents Format.binary64 (Sign.ofBitVec (unpackSign b)) (unpackExponent b)
      (unpackMantissa b) = b := by
  apply BitVec.eq_of_getLsbD_eq
  intro i inside
  have inside : i < 64 := inside
  simp only [packComponents, toBitVec_ofBitVec, BitVec.getLsbD_append]
  simp only [unpackMantissa, unpackExponent, unpackSign, BitVec.getLsbD_cast,
    BitVec.getLsbD_extractLsb, Format.binary64]
  split
  · rename_i low
    simp [low]
  · split
    · rename_i middle
      simp [middle, show 52 + (i - 52) = i by omega]
    · obtain rfl : i = 63 := by omega
      simp

theorem pack_subnormal {sign : Sign} {m : Nat} {e : Int} (pos : 0 < m) (below : m < 2 ^ 52)
    (least : e = -1074) : pack Format.binary64 (.finite sign m e pos) =
      packComponents Format.binary64 sign 0#11 (BitVec.ofNat 52 m) := by
  have short : m.log2 + 1 ≠ 53 := by
    have := (Nat.log2_lt (by omega)).mpr below
    omega
  have notInfinite : ¬2 ^ 11 ≤ (e + (1023 : Nat) + (52 : Nat)).toNat + 1 := by omega
  exact (if_neg notInfinite).trans (if_neg short)

theorem pack_normal {sign : Sign} {m e : Nat} (pos : 0 < 2 ^ 52 + m) (below : m < 2 ^ 52)
    (small : e + 1 < 2 ^ 11) :
    pack Format.binary64 (.finite sign (2 ^ 52 + m) (e - 1075) pos) =
      packComponents Format.binary64 sign (BitVec.ofNat 11 e) (BitVec.ofNat 52 m) := by
  have long : (2 ^ 52 + m).log2 + 1 = 53 := by
    have : (2 ^ 52 + m).log2 = 52 := (Nat.log2_eq_iff (by omega)).mpr ⟨by omega, by omega⟩
    omega
  have biased : ((e : Int) - 1075 + (1023 : Nat) + (52 : Nat)).toNat = e := by omega
  have fraction : BitVec.ofNat 52 (2 ^ 52 + m) = BitVec.ofNat 52 m := by
    apply BitVec.eq_of_toNat_eq
    rw [BitVec.toNat_ofNat, BitVec.toNat_ofNat, Nat.add_mod_left]
  have notInfinite : ¬2 ^ 11 ≤ ((e : Int) - 1075 + (1023 : Nat) + (52 : Nat)).toNat + 1 := by
    omega
  have whole : pack Format.binary64 (.finite sign (2 ^ 52 + m) (e - 1075) pos) =
      packComponents Format.binary64 sign
        (BitVec.ofNat 11 ((e : Int) - 1075 + (1023 : Nat) + (52 : Nat)).toNat)
        (BitVec.ofNat 52 (2 ^ 52 + m)) := (if_neg notInfinite).trans (if_pos long)
  rw [whole, biased, fraction]

/-- A double that is no NaN is packed again as it was. -/
theorem pack_unpack {b : BitVec Format.binary64.numBits}
    (number : unpack Format.binary64 b ≠ .notANumber) :
    pack Format.binary64 (unpack Format.binary64 b) = b := by
  have whole := packComponents_unpack b
  have below : (@unpackMantissa Format.binary64 b).toNat < 2 ^ 52 := BitVec.isLt _
  have fraction : BitVec.ofNat 52 (@unpackMantissa Format.binary64 b).toNat = unpackMantissa b :=
    BitVec.ofNat_toNat ..
  unfold unpack at number ⊢
  dsimp only at number ⊢
  split at number
  · rename_i ones
    split at number
    · rename_i none
      rw [if_pos ones, if_pos none]
      rwa [ones, none] at whole
    · exact absurd rfl number
  · rename_i finite
    rw [if_neg finite]
    split at number
    · rename_i small
      rw [if_pos small]
      split
      · rename_i none
        rwa [small, none] at whole
      · rename_i some
        have positive : 0 < (@unpackMantissa Format.binary64 b).toNat := by
          simpa [BitVec.toNat_pos, BitVec.pos_iff_ne_zero] using some
        rw [small] at whole ⊢
        refine (pack_subnormal positive below rfl).trans ?_
        rwa [fraction]
    · rename_i normal
      rw [if_neg normal]
      have exponent : BitVec.ofNat 11 (@unpackExponent Format.binary64 b).toNat =
          unpackExponent b := BitVec.ofNat_toNat ..
      have small : (@unpackExponent Format.binary64 b).toNat + 1 < 2 ^ 11 := by
        have bound : (@unpackExponent Format.binary64 b).toNat < 2 ^ 11 := BitVec.isLt _
        have notOnes : (@unpackExponent Format.binary64 b).toNat ≠ 2047 := by
          intro ones
          apply finite
          exact BitVec.eq_of_toNat_eq ones
        omega
      have leading := toNat_one_append (@unpackMantissa Format.binary64 b)
      simp only [leading]
      refine (pack_normal (by omega) below small).trans ?_
      rwa [exponent, fraction]

theorem pack_unpack_toModel (number : x.isNaN = false) :
    Float.Model.pack x.toModel.unpack = x.toModel := by
  have bits : (Float.Model.pack x.toModel.unpack).toBits = x.toModel.toBits :=
    congrArg UInt64.ofBitVec (pack_unpack (isNaN_eq_false_iff.mp number))
  generalize Float.Model.pack x.toModel.unpack = m at bits ⊢
  obtain ⟨b, valid⟩ := m
  obtain ⟨⟨b', valid'⟩⟩ := x
  obtain rfl : b = b' := bits
  rfl

/-- Zero added to a double other than zero and NaN gives the same double. -/
theorem zero_add_of_ne_zero (number : x.isNaN = false) (nonzero : ¬(x == 0) = true) :
    0 + x = x := by
  have sum : 0 + x = Float.ofModel (Float.Model.pack
      (add Format.binary64 (.zero .positive) x.toModel.unpack)) := rfl
  have same : add Format.binary64 (.zero .positive) x.toModel.unpack = x.toModel.unpack := by
    cases unpacked : x.toModel.unpack with
    | notANumber => exact absurd unpacked (isNaN_eq_false_iff.mp number)
    | infinity sign => rfl
    | finite sign m e pos => rfl
    | zero sign =>
        refine absurd ?_ nonzero
        change x.toModel.unpack.beq (.zero .positive) = true
        rw [unpacked]
        rfl
  rw [sum, same, pack_unpack_toModel number]

theorem not_lt_self (x : Float) : ¬x < x := by
  intro less
  have compared : x.toModel.unpack.lt x.toModel.unpack = true := of_decide_eq_true less
  unfold Float.Model.UnpackedFloat.lt at compared
  cases unpacked : x.toModel.unpack with
  | notANumber =>
      rw [unpacked] at compared
      cases compared
  | infinity sign =>
      rw [unpacked] at compared
      cases sign <;> cases compared
  | zero sign =>
      rw [unpacked] at compared
      cases compared
  | finite sign m e pos =>
      rw [unpacked] at compared
      have equal : (compare e e).then (compare m m) = .eq := by simp
      cases sign with
      | positive =>
          change (some ((compare e e).then (compare m m)) == some .lt) = true at compared
          rw [equal] at compared
          cases compared
      | negative =>
          change (some ((compare e e).then (compare m m)).swap == some .lt) = true at compared
          rw [equal] at compared
          cases compared

end Straightedge.Binary64

namespace Straightedge.Num

open Binary64

/-- A double other than NaN is at most zero and itself. -/
theorem le_zero_add {x : Float} (number : x.isNaN = false) :
    Num.le (.real x) (.real (0 + x)) = true := by
  by_cases zero : (x == 0) = true
  · obtain rfl | ⟨rfl, -⟩ | ⟨rfl, -⟩ := (Float.beq_iff_ne_nan_and_eq.mp zero).2.2
    all_goals decide +kernel
  · have notNaN : x ≠ Float.nan := by
      rintro rfl
      cases number
    have equal : (x == x) = true := Float.beq_iff_ne_nan_and_eq.mpr ⟨notNaN, notNaN, .inl rfl⟩
    rw [zero_add_of_ne_zero number zero]
    simp [Num.le, Num.compare?, not_lt_self, equal]

end Straightedge.Num
