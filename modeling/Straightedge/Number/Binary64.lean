import Straightedge.Fault

/-!
# Doubles taken apart

A finite double is a whole number times a power of two. Rounding to an integer,
comparing with an exact integer and taking a remainder are done on these two
numbers, so none of them rounds more than its result asks for. Lengths and
directions of vectors come with the cases that are exact on the axes.
-/

namespace Straightedge.Binary64

/-- A finite double: `mantissa * 2 ^ exponent`, with its sign in the mantissa. -/
structure Parts where
  mantissa : Int
  exponent : Int
  deriving DecidableEq, Repr

/-- The parts of a finite double, read from its bits; none for NaN and the infinities. -/
def parts? (x : Float) : Option Parts :=
  let bits := x.toBits.toNat
  let biased : Nat := bits / Nat.pow 2 52 % Nat.pow 2 11
  let fraction : Int := ((bits % Nat.pow 2 52 : Nat) : Int)
  let sign : Int := if bits < Nat.pow 2 63 then 1 else -1
  if biased = 2047 then none
  else if biased = 0 then some ⟨sign * fraction, -1074⟩
  else some ⟨sign * (Nat.pow 2 52 + fraction), (biased : Int) - 1075⟩

namespace Parts

/-- The numerator of the value as a fraction. -/
def num (p : Parts) : Int := p.mantissa * Nat.pow 2 p.exponent.toNat

/-- The denominator of the value as a fraction. -/
def den (p : Parts) : Nat := Nat.pow 2 (-p.exponent).toNat

theorem den_pos (p : Parts) : 0 < p.den := Nat.two_pow_pos _

/-- The largest integer that is not above the value. -/
def floor (p : Parts) : Int := p.num / p.den

/-- The integer between the value and zero that is next to the value. -/
def truncate (p : Parts) : Int := p.num.tdiv p.den

/-- The nearest integer; a half goes to the even neighbour. -/
def round (p : Parts) : Int :=
  let below := p.num / p.den
  let twice := 2 * (p.num % p.den)
  if twice < p.den then below
  else if (p.den : Int) < twice then below + 1
  else if below % 2 = 0 then below else below + 1

/-- The exact order of the value and an integer. -/
def compareInt (p : Parts) (i : Int) : Ordering := compare p.num (i * p.den)

/-- Rounding moves a value by at most a half. -/
theorem round_near (p : Parts) :
    2 * p.num ≤ (2 * p.round + 1) * p.den ∧ (2 * p.round - 1) * p.den ≤ 2 * p.num := by
  have pos : (0 : Int) < p.den := by exact_mod_cast p.den_pos
  have split := Int.mul_ediv_add_emod p.num p.den
  have low := Int.emod_nonneg p.num (Int.ne_of_gt pos)
  have high := Int.emod_lt_of_pos p.num pos
  unfold round
  generalize hq : p.num / (p.den : Int) = q at *
  generalize hr : p.num % (p.den : Int) = r at *
  generalize hd : (p.den : Int) = d at *
  rw [← split]
  have e1 : (2 * q + 1) * d = 2 * (d * q) + d := by
    rw [Int.add_mul, Int.mul_assoc, Int.mul_comm q]; omega
  have e2 : (2 * q - 1) * d = 2 * (d * q) - d := by
    rw [Int.sub_mul, Int.mul_assoc, Int.mul_comm q]; omega
  have e3 : (2 * (q + 1) + 1) * d = 2 * (d * q) + 3 * d := by
    rw [Int.add_mul, Int.mul_assoc, Int.add_mul, Int.mul_comm q]; omega
  have e4 : (2 * (q + 1) - 1) * d = 2 * (d * q) + d := by
    rw [Int.sub_mul, Int.mul_assoc, Int.add_mul, Int.mul_comm q]; omega
  dsimp only
  split
  · omega
  · split
    · omega
    · split <;> omega

end Parts

/-- The fault of making an integer out of a double that has no parts. -/
def integerFault (x : Float) : Fault := if x.isNaN then .integerOfNaN else .integerOfInfinity

/-- The largest integer that is not above a double. -/
def floor (x : Float) : Except Fault Int :=
  match parts? x with
  | some p => .ok p.floor
  | none => .error (integerFault x)

/-- The integer part of a double. -/
def truncate (x : Float) : Except Fault Int :=
  match parts? x with
  | some p => .ok p.truncate
  | none => .error (integerFault x)

/-- The integer nearest to a double, a half going to the even neighbour. -/
def round (x : Float) : Except Fault Int :=
  match parts? x with
  | some p => .ok p.round
  | none => .error (integerFault x)

/-- The exact order of a double and an integer; none for NaN. -/
def compareInt? (x : Float) (i : Int) : Option Ordering :=
  match parts? x with
  | some p => some (p.compareInt i)
  | none => if x.isNaN then none else some (if x < 0 then .lt else .gt)

/-- The double nearest to `mantissa * 2 ^ exponent`. -/
def ofDyadic (mantissa : Nat) (exponent : Int) : Float :=
  if 0 ≤ exponent then Float.ofNat (mantissa * Nat.pow 2 exponent.toNat)
  else Float.ofScientific (mantissa * Nat.pow 5 (-exponent).toNat) true (-exponent).toNat

/-- The remainder of a finite value by a positive one, before its sign is mended: both are
taken as whole numbers of the smaller power of two, so it is exact. -/
def Parts.remainder (x y : Parts) : Float :=
  let unit := min x.exponent y.exponent
  let whole (p : Parts) : Nat := p.mantissa.natAbs * Nat.pow 2 (p.exponent - unit).toNat
  ofDyadic (whole x % whole y) unit

/-- The remainder of a double by a positive one, which is never negative: a negative
dividend is moved up by one divisor. NaN where there is no remainder. -/
def remainder (x y : Float) : Float :=
  match parts? x, parts? y with
  | some p, some q =>
    if q.mantissa ≤ 0 then 0 / 0
    else
      let r := p.remainder q
      if r == 0 then 0 else if x < 0 then -r + y else r
  | _, _ => 0 / 0

/-- A half turn. -/
def pi : Float := 3.141592653589793

/-- The largest number of at most `bits` binary digits above `root` whose square is not more
than `n`, found digit by digit. -/
def sqrtDigits (n : Nat) : (bits root : Nat) → Nat
  | 0, root => root
  | bits + 1, root =>
    let next := root + Nat.pow 2 bits
    sqrtDigits n bits (if next * next ≤ n then next else root)

/-- The integer part of a square root. -/
def sqrt (n : Nat) : Nat := sqrtDigits n (n.log2 / 2 + 1) 0

/-- The double nearest to the square root of `n * 4 ^ exponent`. The root is taken to some
sixty binary digits, and one more digit tells whether it was exact. -/
def sqrtDyadic (n : Nat) (exponent : Int) : Float :=
  let more := 60 - n.log2 / 2
  let scaled := n * Nat.pow 4 more
  let root := sqrt scaled
  ofDyadic (2 * root + if root * root = scaled then 0 else 1) (exponent - more - 1)

/-- The length of a vector of two finite doubles, correctly rounded. -/
def Parts.hypot (x y : Parts) : Float :=
  let unit := min x.exponent y.exponent
  let a := x.mantissa.natAbs * Nat.pow 2 (x.exponent - unit).toNat
  let b := y.mantissa.natAbs * Nat.pow 2 (y.exponent - unit).toNat
  sqrtDyadic (a * a + b * b) unit

/-- The length of a vector, correctly rounded. It is infinite when a component is, whatever
the other one, and otherwise NaN when a component is. -/
def hypot (x y : Float) : Float :=
  match parts? x, parts? y with
  | some p, some q => p.hypot q
  | _, _ => if x.isInf || y.isInf then 1 / 0 else 0 / 0

/-- Whether a double other than NaN carries a minus sign; zero may carry one too. -/
def isNegative (x : Float) : Bool := Nat.pow 2 63 ≤ x.toBits.toNat

/-- The direction of a vector as an angle within a half turn either way; NaN when a
component is, and only then. On the axes it is exact, and a zero keeps the side it is on. -/
def direction (y x : Float) : Float :=
  if y.isNaN || x.isNaN then 0 / 0
  else if y == 0 then
    if isNegative x then (if isNegative y then -pi else pi) else y
  else if x == 0 then (if y < 0 then -(pi / 2) else pi / 2)
  else
    let angle := Float.atan2 y x
    if pi < angle then pi else if -pi ≤ angle then angle else -pi

end Straightedge.Binary64
