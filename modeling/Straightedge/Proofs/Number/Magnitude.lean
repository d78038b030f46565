import Mathlib
import Straightedge.Number.Binary64

/-!
# Magnitudes of doubles

A bound on the magnitude of doubles, by powers of two, goes through arithmetic: sums
and products of doubles of bounded magnitude are of bounded magnitude, whatever is
lost by rounding. Rounding doubles a magnitude at most, so the bounds are not sharp;
they show that short computations on angles stay finite.
-/

namespace Straightedge.Binary64

open Float.Model (Format totalExponent)
open Float.Model.UnpackedFloat

variable {k l : Int} {m n : Nat} {e : Int}

/-! ## Scaled integers -/

/-- The number `m * 2 ^ e` is less than `2 ^ k`. -/
def Under (k : Int) (m : Nat) (e : Int) : Prop := m < 2 ^ (k - e).toNat

theorem Under.mono (h : Under k m e) (le : k ≤ l) : Under l m e :=
  Nat.lt_of_lt_of_le h (Nat.pow_le_pow_right (by decide) (by omega))

theorem Under.of_le (h : Under k m e) (le : n ≤ m) : Under k n e := Nat.lt_of_le_of_lt le h

/-- A mantissa that is shifted to the left along with its exponent. -/
theorem Under.shiftLeft (h : Under k m e) (s : Nat) : Under k (m <<< s) (e - s) := by
  unfold Under at *
  rw [Nat.shiftLeft_eq]
  by_cases above : e ≤ k
  · have split : (k - (e - s)).toNat = (k - e).toNat + s := by omega
    rw [split, Nat.pow_add]
    exact Nat.mul_lt_mul_of_pos_right h (Nat.two_pow_pos s)
  · have zero : m = 0 := by
      rw [show (k - e).toNat = 0 by omega, Nat.pow_zero] at h
      omega
    rw [zero, Nat.zero_mul]
    exact Nat.two_pow_pos _

/-- A mantissa that is cut off to the right along with its exponent. -/
theorem Under.shiftRight (h : Under k m e) (s : Nat) : Under k (m / 2 ^ s) (e + s) := by
  unfold Under at *
  rw [Nat.div_lt_iff_lt_mul (Nat.two_pow_pos s), ← Nat.pow_add]
  exact Nat.lt_of_lt_of_le h (Nat.pow_le_pow_right (by decide) (by omega))

/-- A bound below the unit leaves zero alone. -/
theorem Under.eq_zero (h : Under k m e) (above : k ≤ e) : m = 0 := by
  rw [Under, show (k - e).toNat = 0 by omega] at h
  omega

theorem under_zero : Under k 0 e := Nat.two_pow_pos _

theorem Under.add (h : Under k m e) (h' : Under k n e) : Under (k + 1) (m + n) e := by
  by_cases above : k ≤ e
  · rw [h.eq_zero above, h'.eq_zero above]
    exact under_zero
  · unfold Under at *
    rw [show (k + 1 - e).toNat = (k - e).toNat + 1 by omega, Nat.pow_succ]
    omega

theorem Under.succ (h : Under k m e) (reaches : e ≤ k) : Under (k + 1) (m + 1) e := by
  unfold Under at *
  rw [show (k + 1 - e).toNat = (k - e).toNat + 1 by omega, Nat.pow_succ]
  omega

theorem Under.mul {f : Int} (h : Under k m e) (h' : Under l n f) :
    Under (k + l) (m * n) (e + f) := by
  by_cases above : k ≤ e
  · rw [h.eq_zero above, Nat.zero_mul]
    exact under_zero
  by_cases above' : l ≤ f
  · rw [h'.eq_zero above', Nat.mul_zero]
    exact under_zero
  unfold Under at *
  rw [show (k + l - (e + f)).toNat = (k - e).toNat + (l - f).toNat by omega, Nat.pow_add]
  exact Nat.mul_lt_mul'' h h'

theorem Under.log2 (h : Under k m e) (pos : 0 < m) : totalExponent m e ≤ k := by
  have reaches : ¬k ≤ e := fun above => absurd (h.eq_zero above) (Nat.ne_of_gt pos)
  have := (Nat.log2_lt (Nat.ne_of_gt pos)).mpr h
  rw [totalExponent]
  omega

/-! ## Rounding -/

theorem mantissa_ofMantissaAndAccuracy (m : Nat) (a : Accuracy) :
    (ExtendedMantissa.ofMantissaAndAccuracy m a).mantissa = m := by
  rcases a with _ | _ | _ | _ <;> rfl

theorem mantissa_shiftRight (em : ExtendedMantissa) (s : Nat) :
    (em >>> s).mantissa = em.mantissa / 2 ^ s := by
  induction s with
  | zero => exact (Nat.div_one em.mantissa).symm
  | succ s ih =>
      have step : (em >>> (s + 1)).mantissa = (em >>> s).mantissa / 2 := rfl
      rw [step, ih, Nat.div_div_eq_div_mul, Nat.pow_succ]

theorem roundedMantissa_le (em : ExtendedMantissa) : em.roundedMantissa ≤ em.mantissa + 1 := by
  obtain ⟨m, roundBit, stickyBit⟩ := em
  cases roundBit <;> cases stickyBit <;>
    simp only [ExtendedMantissa.roundedMantissa, ExtendedMantissa.accuracy,
      Accuracy.roundToNearestEven] <;> omega

theorem targetExponent_binary64 (t : Int) :
    Format.binary64.targetExponent t = max (t - 53) (-1074) := rfl

theorem under_shiftToTargetExponent (h : Under k m e) (a : Accuracy) :
    Under k (shiftToTargetExponent Format.binary64 m e a).1.mantissa
      (shiftToTargetExponent Format.binary64 m e a).2 := by
  simp only [shiftToTargetExponent, shiftToExponent, mantissa_shiftRight,
    mantissa_ofMantissaAndAccuracy]
  exact h.shiftRight _

theorem shiftToTargetExponent_le (h : Under k m e) (reaches : e ≤ k) (normal : -1074 ≤ k)
    (a : Accuracy) : (shiftToTargetExponent Format.binary64 m e a).2 ≤ k := by
  simp only [shiftToTargetExponent, shiftToExponent, targetExponent_binary64]
  rcases Nat.eq_zero_or_pos m with rfl | pos
  · have total : totalExponent 0 e = e + 1 := by rw [totalExponent, Nat.log2_zero]; omega
    omega
  · have := h.log2 pos
    omega

/-- The magnitude of a double that is unpacked is less than `2 ^ k`. -/
def Below (k : Int) : Float.Model.UnpackedFloat → Prop
  | .zero _ => True
  | .finite _ m e _ => Under k m e
  | _ => False

instance (k : Int) : (x : Float.Model.UnpackedFloat) → Decidable (Below k x)
  | .zero _ => isTrue trivial
  | .finite _ m e _ => inferInstanceAs (Decidable (m < 2 ^ (k - e).toNat))
  | .infinity _ => isFalse id
  | .notANumber => isFalse id

/-- Rounding doubles the magnitude at most. -/
theorem below_roundWithAccuracy (h : Under k m e) (reaches : e ≤ k) (normal : -1074 ≤ k)
    (sign : Sign) (a : Accuracy) :
    Below (k + 1) (roundWithAccuracy Format.binary64 sign m e a) := by
  have first := under_shiftToTargetExponent h a
  have rounded := (first.succ (shiftToTargetExponent_le h reaches normal a)).of_le
    (roundedMantissa_le _)
  have second := under_shiftToTargetExponent rounded .exact
  simp only [roundWithAccuracy]
  split
  · trivial
  · exact second

theorem below_normalize {i : Int} (h : Under k i.natAbs e) (normal : -1074 ≤ k) (zeroSign : Sign) :
    Below (k + 1) (normalize Format.binary64 i e zeroSign) := by
  have rounds : ∀ sign, 0 < i.natAbs →
      Below (k + 1) (Float.Model.UnpackedFloat.round Format.binary64 sign i.natAbs e) := by
    intro sign pos
    have total := h.log2 pos
    rw [totalExponent] at total
    exact below_roundWithAccuracy (h.shiftLeft _) (by omega) normal sign .exact
  unfold Float.Model.UnpackedFloat.normalize
  split
  · rename_i negative
    rw [Int.compare_eq_lt] at negative
    rw [show (-i).toNat = i.natAbs by omega]
    exact rounds .negative (by omega)
  · trivial
  · rename_i positive
    rw [Int.compare_eq_gt] at positive
    rw [show i.toNat = i.natAbs by omega]
    exact rounds .positive (by omega)

/-! ## Arithmetic -/

/-- The magnitude of a double is less than `2 ^ k`; in particular it is finite. -/
def Small (k : Int) (x : Float) : Prop := Below k x.toModel.unpack

instance (k : Int) (x : Float) : Decidable (Small k x) :=
  inferInstanceAs (Decidable (Below k x.toModel.unpack))

theorem natAbs_apply (sign : Sign) (m : Nat) : (sign.apply m).natAbs = m := by
  cases sign with
  | positive => exact Int.natAbs_natCast m
  | negative => exact (Int.natAbs_neg _).trans (Int.natAbs_natCast m)

theorem Below.mono {x : Float.Model.UnpackedFloat} (h : Below k x) (le : k ≤ l) : Below l x := by
  cases x with
  | zero => trivial
  | finite sign m e pos => exact Under.mono h le
  | infinity => exact h.elim
  | notANumber => exact h.elim

/-- The rounded sum of two mantissas over the smaller of their exponents, whatever their signs. -/
theorem below_normalize_add {f i : Int} (h : Under k m e) (h' : Under k n f) (normal : -1074 ≤ k)
    (sum : i.natAbs ≤ (m <<< (e - min e f).toNat) + (n <<< (f - min e f).toNat)) :
    Below (k + 2) (normalize Format.binary64 i (min e f) .positive) := by
  have first := h.shiftLeft (e - min e f).toNat
  have second := h'.shiftLeft (f - min e f).toNat
  rw [show e - ((e - min e f).toNat : Int) = min e f by omega] at first
  rw [show f - ((f - min e f).toNat : Int) = min e f by omega] at second
  have rounded := below_normalize ((first.add second).of_le sum) (by omega) .positive
  rwa [Int.add_assoc] at rounded

theorem below_add {x y : Float.Model.UnpackedFloat} (h : Below k x) (h' : Below k y)
    (normal : -1074 ≤ k) : Below (k + 2) (add Format.binary64 x y) := by
  cases x with
  | notANumber => exact h.elim
  | infinity => exact h.elim
  | zero sign =>
      cases y with
      | notANumber => exact h'.elim
      | infinity => exact h'.elim
      | zero sign' => unfold add; dsimp only; split <;> trivial
      | finite => exact h'.mono (by omega)
  | finite sign m e pos =>
      cases y with
      | notANumber => exact h'.elim
      | infinity => exact h'.elim
      | zero sign' => exact h.mono (by omega)
      | finite sign' n f pos' =>
          apply below_normalize_add h h' normal
          refine (Int.natAbs_add_le _ _).trans_eq ?_
          rw [natAbs_apply, natAbs_apply]

theorem below_sub {x y : Float.Model.UnpackedFloat} (h : Below k x) (h' : Below k y)
    (normal : -1074 ≤ k) : Below (k + 2) (sub Format.binary64 x y) := by
  cases x with
  | notANumber => exact h.elim
  | infinity => exact h.elim
  | zero sign =>
      cases y with
      | notANumber => exact h'.elim
      | infinity => exact h'.elim
      | zero sign' => unfold sub; dsimp only; split <;> trivial
      | finite => exact Under.mono h' (by omega)
  | finite sign m e pos =>
      cases y with
      | notANumber => exact h'.elim
      | infinity => exact h'.elim
      | zero sign' => exact h.mono (by omega)
      | finite sign' n f pos' =>
          apply below_normalize_add h h' normal
          refine (Int.natAbs_sub_le _ _).trans_eq ?_
          rw [natAbs_apply, natAbs_apply]

theorem below_mul {x y : Float.Model.UnpackedFloat} (h : Below k x) (h' : Below l y)
    (normal : -1074 ≤ k + l) : Below (k + l + 1) (mul Format.binary64 x y) := by
  cases x with
  | notANumber => exact h.elim
  | infinity => exact h.elim
  | zero sign =>
      cases y with
      | notANumber => exact h'.elim
      | infinity => exact h'.elim
      | zero sign' => trivial
      | finite => trivial
  | finite sign m e pos =>
      cases y with
      | notANumber => exact h'.elim
      | infinity => exact h'.elim
      | zero sign' => trivial
      | finite sign' n f pos' =>
          have total := Under.log2 h pos
          have total' := Under.log2 h' pos'
          rw [totalExponent] at total total'
          exact below_roundWithAccuracy (Under.mul h h') (by omega) normal _ .exact

/-- A quotient of integers, rounded. -/
theorem below_div {m d c : Nat} {s s' : Sign} {pos : 0 < m} {pos' : 0 < d} (h : m < 2 ^ c * d) :
    Below (c + 1) (div Format.binary64 (.finite s m 0 pos) (.finite s' d 0 pos')) := by
  simp only [div, divCore]
  generalize shift : min ((0 : Int) - 0) _ = t
  have low : t ≤ 0 := by omega
  apply below_roundWithAccuracy _ (by omega) (by omega)
  unfold Under
  rw [Nat.div_lt_iff_lt_mul pos', Nat.shiftLeft_eq]
  have split : ((c : Int) - t).toNat = c + ((0 : Int) - 0 - t).toNat := by omega
  rw [split, Nat.pow_add, Nat.mul_right_comm]
  exact Nat.mul_lt_mul_of_pos_right h (Nat.two_pow_pos _)

/-- A decimal fraction, rounded. -/
theorem below_ofScientific {m n c : Nat} (h : m < 2 ^ c * 10 ^ n) (fraction : 0 < n) :
    Below (c + 1) (Float.Model.UnpackedFloat.ofScientific Format.binary64 m (-n)) := by
  have negative : ¬(0 : Int) ≤ -n := by omega
  unfold Float.Model.UnpackedFloat.ofScientific
  split
  · trivial
  split
  · rename_i large
    change (2048 : Int) < -n at large
    omega
  split
  · trivial
  apply below_div
  rwa [show (-(-(n : Int))).toNat = n by omega]

/-! ## Packing -/

theorem exponentBias_binary64 : Format.binary64.exponentBias = 1023 := rfl

theorem toNat_one_append (mantissa : BitVec 52) :
    (1#1 ++ mantissa).toNat = 2 ^ 52 + mantissa.toNat := by
  rw [BitVec.toNat_append, ← Nat.shiftLeft_add_eq_or_of_lt mantissa.isLt]
  rfl

/-- Unpacked from its components, a double is below a bound if its exponent is not all ones and,
unless it is subnormal, its mantissa is below the bound. -/
theorem below_unpack_packComponents {exponent : BitVec 11} {mantissa : BitVec 52} {sign : Sign}
    (finite : exponent.toNat < 2047) (normal : -1022 ≤ k)
    (under : 0 < exponent.toNat →
      Under k (2 ^ 52 + mantissa.toNat) ((exponent.toNat : Int) - 1075)) :
    Below k (unpack Format.binary64 (packComponents Format.binary64 sign exponent mantissa)) := by
  have notOnes : exponent ≠ -1#11 := by
    rintro rfl
    exact absurd finite (by decide)
  unfold unpack
  simp only [unpackExponent_packComponents, unpackMantissa_packComponents]
  rw [if_neg notOnes]
  split
  · split
    · trivial
    · rename_i zero _
      subst zero
      refine Nat.lt_of_lt_of_le mantissa.isLt (Nat.pow_le_pow_right (by decide) ?_)
      rw [exponentBias_binary64, BitVec.toNat_zero]
      omega
  · rename_i notZero
    have pos : 0 < exponent.toNat :=
      Nat.pos_of_ne_zero fun zero => notZero (BitVec.eq_of_toNat_eq zero)
    have here := under pos
    rw [← toNat_one_append] at here
    exact here

/-- What is packed keeps its magnitude if its exponent is one of the format. -/
theorem below_unpack_pack_finite {sign : Sign} {pos : 0 < m} (h : Under k m e)
    (normal : -1022 ≤ k) (fits : e ≤ 971) :
    Below k (Float.Model.pack (.finite sign m e pos)).unpack := by
  unfold Float.Model.unpack Float.Model.pack
  have notLarge : ¬2 ^ Format.binary64.exponentBits ≤ (e + Format.binary64.exponentBias +
      Format.binary64.mantissaBitsWithoutImplicit).toNat + 1 := by
    change ¬2048 ≤ (e + 1023 + 52).toNat + 1
    omega
  simp only [pack, if_neg notLarge]
  split
  · rename_i full
    have log : m.log2 = 52 := Nat.succ.inj full
    have low := Nat.log2_self_le (Nat.ne_of_gt pos)
    have high := Nat.lt_log2_self (n := m)
    rw [log] at low high
    have whole : 2 ^ 52 + (BitVec.ofNat 52 m).toNat = m := by
      rw [BitVec.toNat_ofNat]
      omega
    have exponent : (BitVec.ofNat 11 (e + 1023 + 52).toNat).toNat = (e + 1075).toNat := by
      rw [BitVec.toNat_ofNat]
      omega
    refine below_unpack_packComponents (exponent.trans_lt (by omega)) normal fun positive => ?_
    change 0 < (BitVec.ofNat 11 (e + 1023 + 52).toNat).toNat at positive
    change Under k (2 ^ 52 + (BitVec.ofNat 52 m).toNat)
      (((BitVec.ofNat 11 (e + 1023 + 52).toNat).toNat : Int) - 1075)
    rw [exponent] at positive ⊢
    rw [whole, show ((e + 1075).toNat : Int) - 1075 = e by omega]
    exact h
  · exact below_unpack_packComponents (by decide) normal nofun

theorem below_unpack_pack {x : Float.Model.UnpackedFloat} (h : Below k x) (normal : -1022 ≤ k)
    (small : k ≤ 971) : Below k (Float.Model.pack x).unpack := by
  cases x with
  | notANumber => exact h.elim
  | infinity => exact h.elim
  | zero sign =>
      unfold Float.Model.unpack Float.Model.pack
      exact below_unpack_packComponents (by decide) normal nofun
  | finite sign m e pos =>
      have total := Under.log2 h pos
      rw [totalExponent] at total
      exact below_unpack_pack_finite h normal (by omega)

/-! ## Doubles -/

variable {x y : Float}

theorem Small.mono (h : Small k x) (le : k ≤ l) : Small l x := Below.mono h le

theorem Small.add (h : Small k x) (h' : Small k y) (normal : -1022 ≤ k) (small : k ≤ 969) :
    Small (k + 2) (x + y) :=
  below_unpack_pack (below_add h h' (by omega)) (by omega) (by omega)

theorem Small.sub (h : Small k x) (h' : Small k y) (normal : -1022 ≤ k) (small : k ≤ 969) :
    Small (k + 2) (x - y) :=
  below_unpack_pack (below_sub h h' (by omega)) (by omega) (by omega)

theorem Small.mul (h : Small k x) (h' : Small l y) (normal : -1022 ≤ k + l)
    (small : k + l ≤ 970) : Small (k + l + 1) (x * y) :=
  below_unpack_pack (below_mul h h' (by omega)) (by omega) (by omega)

theorem Small.neg (h : Small k x) (normal : -1022 ≤ k) (small : k ≤ 971) : Small k (-x) := by
  apply below_unpack_pack _ normal small
  unfold Small at h
  cases unpacked : x.toModel.unpack with
  | notANumber => rw [unpacked] at h; exact h.elim
  | infinity => rw [unpacked] at h; exact h.elim
  | zero => trivial
  | finite => rw [unpacked] at h; exact h

/-- The biased exponent as the bits hold it. -/
theorem toNat_unpackExponent (x : Float) :
    (@unpackExponent Format.binary64 x.toModel.toBits.toBitVec).toNat =
      x.toBits.toNat / Nat.pow 2 52 % Nat.pow 2 11 := by
  unfold unpackExponent
  rw [BitVec.toNat_cast, BitVec.extractLsb_toNat, Nat.shiftRight_eq_div_pow]
  rfl

/-- A double has parts exactly if it is finite. -/
theorem parts?_eq_none_iff : parts? x = none ↔ x.isFinite = false := by
  have exponent := toNat_unpackExponent x
  have isFinite : x.isFinite = (unpack Format.binary64 x.toModel.toBits.toBitVec).isFinite := rfl
  rw [isFinite]
  unfold parts? unpack
  simp only [← exponent]
  by_cases ones : @unpackExponent Format.binary64 x.toModel.toBits.toBitVec = -1#11
  · rw [if_pos ones, ones, if_pos (by decide)]
    refine iff_of_true rfl ?_
    split <;> rfl
  · have other : (@unpackExponent Format.binary64 x.toModel.toBits.toBitVec).toNat ≠ 2047 :=
      fun same => ones (BitVec.eq_of_toNat_eq same)
    rw [if_neg ones, if_neg other]
    refine iff_of_false (by split <;> exact nofun) ?_
    split
    · split <;> exact nofun
    · exact nofun

theorem Small.isFinite (h : Small k x) : x.isFinite = true := by
  unfold Small at h
  change x.toModel.unpack.isFinite = true
  cases unpacked : x.toModel.unpack with
  | notANumber | infinity =>
      rw [unpacked] at h
      exact h.elim
  | zero | finite => rfl

theorem Small.exists_parts (h : Small k x) : ∃ p, parts? x = some p :=
  Option.ne_none_iff_exists'.mp fun none =>
    Bool.noConfusion (h.isFinite.symm.trans (parts?_eq_none_iff.mp none))

theorem small_ofDyadic {m n c : Nat} (h : m < 2 ^ (c + n)) (far : 22 < n) (small : c ≤ 970) :
    Small (c + 1) (ofDyadic m (-n)) := by
  have negative : ¬(0 : Int) ≤ -n := by omega
  have size : (-(-(n : Int))).toNat = n := by omega
  have exponent : Int.negOfNat n = -(n : Int) := Int.negOfNat_eq
  have decimal : m * Nat.pow 5 n < 2 ^ c * 10 ^ n := by
    calc m * Nat.pow 5 n < 2 ^ (c + n) * 5 ^ n :=
          Nat.mul_lt_mul_of_pos_right h (Nat.pow_pos (by decide))
      _ = 2 ^ c * 10 ^ n := by rw [Nat.pow_add, Nat.mul_assoc, ← Nat.mul_pow]
  rw [ofDyadic, if_neg negative, size, Float.ofScientific, dif_neg (by omega)]
  apply below_unpack_pack _ (by omega) (by omega)
  change Below _ (Float.Model.UnpackedFloat.ofScientific Format.binary64 _ (Int.negOfNat n))
  rw [exponent]
  exact below_ofScientific decimal (by omega)

end Straightedge.Binary64
