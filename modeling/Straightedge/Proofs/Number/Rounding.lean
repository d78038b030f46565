import Straightedge.Proofs.Number.Magnitude
import Straightedge.Proofs.Number.Range

/-!
# Rounding to integers

A number is rounded to the integer nearest to it, a half to the even neighbour, and
every finite number has exactly one such integer. An integer of a scene that doubles
can hold, or the rounding of a double, has some three hundred digits at most.
-/

namespace Straightedge

namespace Binary64

namespace Parts

variable {p : Parts} {k : Int}

/-- An integer is nearest to a value, and it is even if another one is as near. -/
structure RoundsTo (p : Parts) (k : Int) : Prop where
  low : (2 * k - 1) * p.den ≤ 2 * p.num
  high : 2 * p.num ≤ (2 * k + 1) * p.den
  even : (2 * k - 1) * p.den = 2 * p.num ∨ 2 * p.num = (2 * k + 1) * p.den → k % 2 = 0

/-- The integers nearest to a value are those next to it. -/
theorem RoundsTo.near (h : p.RoundsTo k) : k = p.num / p.den ∨ k = p.num / p.den + 1 := by
  have pos : (0 : Int) < p.den := by exact_mod_cast p.den_pos
  have split := Int.mul_ediv_add_emod p.num p.den
  have low := Int.emod_nonneg p.num (Int.ne_of_gt pos)
  have high := Int.emod_lt_of_pos p.num pos
  have above : 2 * (p.num / p.den) < 2 * k + 2 := by
    apply Int.lt_of_mul_lt_mul_right _ (Int.le_of_lt pos)
    linarith [h.high]
  have below : 2 * k - 1 < 2 * (p.num / p.den) + 2 := by
    apply Int.lt_of_mul_lt_mul_right _ (Int.le_of_lt pos)
    linarith [h.low]
  omega

/-- The integer below a value is nearest to it up to a half, which must be above an even one. -/
theorem roundsTo_div_iff : p.RoundsTo (p.num / p.den) ↔ 2 * (p.num % p.den) ≤ p.den ∧
    (2 * (p.num % p.den) = p.den → p.num / p.den % 2 = 0) := by
  have pos : (0 : Int) < p.den := by exact_mod_cast p.den_pos
  have split := Int.mul_ediv_add_emod p.num p.den
  have least := Int.emod_nonneg p.num (Int.ne_of_gt pos)
  have before : (2 * (p.num / p.den) - 1) * p.den = 2 * (p.den * (p.num / p.den)) - p.den := by
    ring
  have behind : (2 * (p.num / p.den) + 1) * p.den = 2 * (p.den * (p.num / p.den)) + p.den := by
    ring
  constructor
  · rintro ⟨low, high, even⟩
    omega
  · rintro ⟨le, even⟩
    constructor <;> omega

/-- The integer above a value is nearest to it from a half on, which must be below an even one. -/
theorem roundsTo_div_add_one_iff : p.RoundsTo (p.num / p.den + 1) ↔
    p.den ≤ 2 * (p.num % p.den) ∧
      (2 * (p.num % p.den) = p.den → (p.num / p.den + 1) % 2 = 0) := by
  have pos : (0 : Int) < p.den := by exact_mod_cast p.den_pos
  have split := Int.mul_ediv_add_emod p.num p.den
  have most := Int.emod_lt_of_pos p.num pos
  have before : (2 * (p.num / p.den + 1) - 1) * p.den =
      2 * (p.den * (p.num / p.den)) + p.den := by
    ring
  have behind : (2 * (p.num / p.den + 1) + 1) * p.den =
      2 * (p.den * (p.num / p.den)) + 3 * p.den := by
    ring
  constructor
  · rintro ⟨low, high, even⟩
    omega
  · rintro ⟨le, even⟩
    constructor <;> omega

/-- Rounding gives the one integer that is nearest, a half going to the even neighbour. -/
theorem round_eq_iff : p.round = k ↔ p.RoundsTo k := by
  unfold round
  dsimp only
  constructor
  · rintro rfl
    split
    · exact roundsTo_div_iff.mpr (by omega)
    split
    · exact roundsTo_div_add_one_iff.mpr (by omega)
    split
    · exact roundsTo_div_iff.mpr (by omega)
    · exact roundsTo_div_add_one_iff.mpr (by omega)
  · intro h
    obtain rfl | rfl := h.near
    · have below := roundsTo_div_iff.mp h
      split_ifs <;> omega
    · have above := roundsTo_div_add_one_iff.mp h
      split_ifs <;> omega

/-- Rounding takes an integer value for what it is, so it never leads away from zero beyond the
numerator. -/
theorem natAbs_round_le (p : Parts) : p.round.natAbs ≤ p.num.natAbs := by
  have whole : (1 : Int) ≤ p.den := by exact_mod_cast p.den_pos
  have rounds := round_eq_iff.mp (Eq.refl p.round)
  by_cases positive : 0 < p.round
  · have grown : (2 * p.round - 1) * 1 ≤ (2 * p.round - 1) * p.den :=
      Int.mul_le_mul_of_nonneg_left whole (by omega)
    have := rounds.low
    omega
  by_cases negative : p.round < 0
  · have grown : (2 * p.round + 1) * p.den ≤ (2 * p.round + 1) * 1 :=
      Int.mul_le_mul_of_nonpos_left (by omega) whole
    have := rounds.high
    omega
  · omega

/-- The numerator of a value that is at least its unit is of the size of the value. -/
theorem natAbs_num_le (p : Parts) {e : Nat} (mantissa : p.mantissa.natAbs < 2 ^ 53)
    (exponent : p.exponent ≤ e) : p.num.natAbs ≤ (2 ^ 53 - 1) * Nat.pow 2 e := by
  have power : Nat.pow 2 p.exponent.toNat ≤ Nat.pow 2 e :=
    Nat.pow_le_pow_right (by decide) (by omega)
  calc p.num.natAbs = p.mantissa.natAbs * Nat.pow 2 p.exponent.toNat := Int.natAbs_mul _ _
    _ ≤ (2 ^ 53 - 1) * Nat.pow 2 e := Nat.mul_le_mul (Nat.le_pred_of_lt mantissa) power

end Parts

/-- The exponent of the largest doubles. -/
def maxExponent : Nat := 971

/-- A finite double has a mantissa of 53 bits and at most the largest exponent. -/
theorem bounds_of_parts? {x : Float} {p : Parts} (h : parts? x = some p) :
    p.mantissa.natAbs < 2 ^ 53 ∧ p.exponent ≤ maxExponent := by
  have fraction : x.toBits.toNat % Nat.pow 2 52 < 2 ^ 52 := Nat.mod_lt _ (by decide)
  have biased : x.toBits.toNat / Nat.pow 2 52 % Nat.pow 2 11 < 2048 := Nat.mod_lt _ (by decide)
  unfold parts? at h
  dsimp only at h
  generalize x.toBits.toNat % Nat.pow 2 52 = f at fraction h
  generalize x.toBits.toNat / Nat.pow 2 52 % Nat.pow 2 11 = b at biased h
  have signed : ∀ n : Nat,
      ((if x.toBits.toNat < Nat.pow 2 63 then 1 else -1 : Int) * n).natAbs = n := by
    intro n
    split <;> simp
  split at h
  · cases h
  split at h
  · obtain rfl := Option.some.inj h
    refine ⟨?_, show (-1074 : Int) ≤ maxExponent by decide⟩
    rw [signed]
    omega
  · obtain rfl := Option.some.inj h
    refine ⟨?_, show (b : Int) - 1075 ≤ 971 by omega⟩
    have whole : ((Nat.pow 2 52 : Int) + f) = ((2 ^ 52 + f : Nat) : Int) := by push_cast; rfl
    rw [whole, signed]
    omega

/-- The largest double is half a unit below the bound. -/
theorem largest_lt_integerBound : (2 ^ 53 - 1) * Nat.pow 2 maxExponent < Num.integerBound := by
  decide +kernel

/-- A finite double is rounded within the range of doubles. -/
theorem natAbs_round_lt {x : Float} {p : Parts} (h : parts? x = some p) :
    p.round.natAbs < Num.integerBound := by
  obtain ⟨mantissa, exponent⟩ := bounds_of_parts? h
  calc p.round.natAbs ≤ p.num.natAbs := p.natAbs_round_le
    _ ≤ (2 ^ 53 - 1) * Nat.pow 2 maxExponent := p.natAbs_num_le mantissa exponent
    _ < Num.integerBound := largest_lt_integerBound

end Binary64

namespace Num

variable {n : Num} {k : Int}

/-- An integer is nearest to a number, and it is even if another one is as near. -/
inductive RoundsTo : Num → Int → Prop where
  | int (i : Int) : RoundsTo (.int i) i
  | real {x : Float} {p : Binary64.Parts} {k : Int} (parts : Binary64.parts? x = some p)
      (rounds : p.RoundsTo k) : RoundsTo (.real x) k

/-- A number is rounded to the integer nearest to it, if there is one. -/
theorem round_eq_ok_iff : n.round = .ok k ↔ n.RoundsTo k := by
  cases n with
  | int i =>
      constructor
      · intro h
        obtain rfl := Except.ok.inj h
        exact .int i
      · rintro ⟨⟩
        rfl
  | real x =>
      change Binary64.round x = .ok k ↔ _
      constructor
      · intro h
        unfold Binary64.round at h
        split at h
        · rename_i p parts
          exact .real parts (Binary64.Parts.round_eq_iff.mp (Except.ok.inj h))
        · cases h
      · intro h
        cases h with
        | real parts rounds =>
            rw [Binary64.round, parts]
            exact congrArg Except.ok (Binary64.Parts.round_eq_iff.mpr rounds)

theorem RoundsTo.unique {l : Int} (h : n.RoundsTo k) (h' : n.RoundsTo l) : k = l :=
  Except.ok.inj ((round_eq_ok_iff.mpr h).symm.trans (round_eq_ok_iff.mpr h'))

/-- A number that is neither infinite nor NaN. -/
def Finite : Num → Prop
  | int _ => True
  | real x => x.isFinite = true

/-- A finite number that a double can hold is rounded within the range of doubles. -/
theorem exists_roundsTo {x : Float} (finite : n.Finite) (inRange : n.toFloat = .ok x) :
    ∃ k : Int, n.RoundsTo k ∧ k.natAbs < integerBound := by
  cases n with
  | int i =>
      obtain ⟨below, -⟩ := toFloat_int_eq_ok_iff.mp inRange
      exact ⟨i, .int i, below⟩
  | real y =>
      cases parts : Binary64.parts? y with
      | none => exact absurd finite (by simp [Finite, Binary64.parts?_eq_none_iff.mp parts])
      | some p =>
          exact ⟨p.round, .real parts (Binary64.Parts.round_eq_iff.mp rfl),
            Binary64.natAbs_round_lt parts⟩

end Num

end Straightedge
