import Straightedge.Proofs.Number.Magnitude

/-!
# Where NaN comes from

Arithmetic passes NaN on, and the difference of finite doubles is never NaN: what is
too large for a double becomes infinite.
-/

namespace Straightedge.Binary64

open Float.Model (Format)
open Float.Model.UnpackedFloat

variable {x y : Float}

theorem isNaN_iff : x.isNaN = true ↔ x.toModel.unpack = .notANumber :=
  Float.Model.UnpackedFloat.isNaN_iff

theorem isNaN_eq_false_iff : x.isNaN = false ↔ x.toModel.unpack ≠ .notANumber := by
  rw [← Bool.not_eq_true, isNaN_iff]

/-- A double that is unpacked is zero or finite. -/
def IsNumber : Float.Model.UnpackedFloat → Prop
  | .zero _ | .finite .. => True
  | _ => False

theorem isFinite_iff : x.isFinite = true ↔ IsNumber x.toModel.unpack := by
  change x.toModel.unpack.isFinite = true ↔ _
  cases x.toModel.unpack <;> simp [Float.Model.UnpackedFloat.isFinite, IsNumber]

/-! ## Packing -/

theorem unpack_packComponents_ne_notANumber {exponent : BitVec 11} {mantissa : BitVec 52}
    {sign : Sign} (number : exponent = -1#11 → mantissa = 0#52) :
    unpack Format.binary64 (packComponents Format.binary64 sign exponent mantissa) ≠
      .notANumber := by
  unfold unpack
  simp only [unpackExponent_packComponents, unpackMantissa_packComponents]
  split
  · rename_i ones
    rw [if_pos (number ones)]
    exact nofun
  · split
    · split <;> exact nofun
    · exact nofun

/-- What is packed is NaN only if it was. -/
theorem unpack_pack_ne_notANumber {u : Float.Model.UnpackedFloat} (number : u ≠ .notANumber) :
    (Float.Model.pack u).unpack ≠ .notANumber := by
  have smallExponent : ∀ {n : Nat} {mantissa : BitVec 52}, n < 2047 →
      BitVec.ofNat 11 n = -1#11 → mantissa = 0#52 := by
    intro n mantissa small ones
    have same := congrArg BitVec.toNat ones
    rw [BitVec.toNat_ofNat, Nat.mod_eq_of_lt (by omega)] at same
    exact absurd same (Nat.ne_of_lt small)
  unfold Float.Model.unpack Float.Model.pack
  cases u with
  | notANumber => exact absurd rfl number
  | infinity sign => exact unpack_packComponents_ne_notANumber fun _ => rfl
  | zero sign => exact unpack_packComponents_ne_notANumber fun _ => rfl
  | finite sign m e pos =>
      simp only [pack]
      split
      · exact unpack_packComponents_ne_notANumber fun _ => rfl
      · rename_i fits
        have small : (e + 1023 + 52).toNat < 2047 := by
          change ¬2048 ≤ (e + 1023 + 52).toNat + 1 at fits
          omega
        split
        · exact unpack_packComponents_ne_notANumber (smallExponent small)
        · exact unpack_packComponents_ne_notANumber (smallExponent (n := 0) (by decide))

theorem unpack_pack_notANumber : (Float.Model.pack .notANumber).unpack = .notANumber :=
  unpack_packedNaN

theorem normalize_ne_notANumber (i e : Int) (zeroSign : Sign) :
    normalize Format.binary64 i e zeroSign ≠ .notANumber := by
  have rounds : ∀ sign m e a, roundWithAccuracy Format.binary64 sign m e a ≠ .notANumber := by
    intro sign m e a same
    simp only [roundWithAccuracy] at same
    split at same <;> cases same
  unfold Float.Model.UnpackedFloat.normalize
  split
  · exact rounds _ _ _ _
  · intro same
    cases same
  · exact rounds _ _ _ _

/-! ## Arithmetic -/

theorem isNaN_sub_left (h : x.isNaN = true) : (x - y).isNaN = true := by
  rw [isNaN_iff] at h ⊢
  change (Float.Model.pack (sub Format.binary64 x.toModel.unpack y.toModel.unpack)).unpack = _
  rw [h]
  exact unpack_pack_notANumber

theorem isNaN_sub_right (h : y.isNaN = true) : (x - y).isNaN = true := by
  rw [isNaN_iff] at h ⊢
  change (Float.Model.pack (sub Format.binary64 x.toModel.unpack y.toModel.unpack)).unpack = _
  rw [h]
  cases x.toModel.unpack <;> exact unpack_pack_notANumber

theorem isNaN_add_left (h : x.isNaN = true) : (x + y).isNaN = true := by
  rw [isNaN_iff] at h ⊢
  change (Float.Model.pack (add Format.binary64 x.toModel.unpack y.toModel.unpack)).unpack = _
  rw [h]
  exact unpack_pack_notANumber

theorem isNaN_add_right (h : y.isNaN = true) : (x + y).isNaN = true := by
  rw [isNaN_iff] at h ⊢
  change (Float.Model.pack (add Format.binary64 x.toModel.unpack y.toModel.unpack)).unpack = _
  rw [h]
  cases x.toModel.unpack <;> exact unpack_pack_notANumber

theorem isNaN_mul_left (h : x.isNaN = true) : (x * y).isNaN = true := by
  rw [isNaN_iff] at h ⊢
  change (Float.Model.pack (mul Format.binary64 x.toModel.unpack y.toModel.unpack)).unpack = _
  rw [h]
  exact unpack_pack_notANumber

/-- Finite doubles have a difference, which may be infinite. -/
theorem isNaN_sub_of_isFinite (h : x.isFinite = true) (h' : y.isFinite = true) :
    (x - y).isNaN = false := by
  rw [isFinite_iff] at h h'
  rw [isNaN_eq_false_iff]
  apply unpack_pack_ne_notANumber
  cases first : x.toModel.unpack with
  | notANumber | infinity =>
      rw [first] at h
      exact h.elim
  | zero sign =>
      cases second : y.toModel.unpack with
      | notANumber | infinity =>
          rw [second] at h'
          exact h'.elim
      | zero sign' =>
          unfold sub
          dsimp only
          split <;> exact nofun
      | finite => exact nofun
  | finite sign m e pos =>
      cases second : y.toModel.unpack with
      | notANumber | infinity =>
          rw [second] at h'
          exact h'.elim
      | zero sign' => exact nofun
      | finite => exact normalize_ne_notANumber _ _ _

/-- Nothing is less than NaN or more. -/
theorem not_lt_of_isNaN (h : x.isNaN = true) : ¬x < y ∧ ¬y < x := by
  rw [isNaN_iff] at h
  constructor
  · intro less
    have compared : (x.toModel.unpack.lt y.toModel.unpack) = true := of_decide_eq_true less
    rw [h] at compared
    cases compared
  · intro less
    have compared : (y.toModel.unpack.lt x.toModel.unpack) = true := of_decide_eq_true less
    rw [h] at compared
    cases unpacked : y.toModel.unpack <;> rw [unpacked] at compared <;> cases compared

/-- NaN has no parts. -/
theorem parts?_of_isNaN (h : x.isNaN = true) : parts? x = none := by
  rw [parts?_eq_none_iff]
  change x.toModel.unpack.isFinite = false
  rw [isNaN_iff.mp h]
  rfl

end Straightedge.Binary64
