import Straightedge.Number.Binary64

/-!
# Numbers of a scene

Coordinates and lengths are exact integers or doubles. Sums and differences of
integers are exact; as soon as a double takes part, the integer is converted,
which fails beyond the range of doubles. Comparisons are always exact.
-/

namespace Straightedge

/-- An exact integer or a double. -/
inductive Num where
  | int (i : Int)
  | real (x : Float)
  deriving DecidableEq, Repr

namespace Num

instance : Inhabited Num := ⟨int 0⟩

instance (n : Nat) : OfNat Num n := ⟨int n⟩

instance : Coe Float Num := ⟨real⟩

/-- From here on the nearest double of an integer would be infinite. -/
def integerBound : Nat := Nat.pow 2 1024 - Nat.pow 2 970

/-- The double nearest to a number. -/
def toFloat : Num → Except Fault Float
  | int i => if i.natAbs < integerBound then .ok (Float.ofInt i) else .error .integerTooLarge
  | real x => .ok x

/-- Only an integer of at least the bound has no double. -/
theorem toFloat_eq_error_iff {n : Num} {f : Fault} :
    n.toFloat = .error f ↔
      f = .integerTooLarge ∧ ∃ i : Int, n = int i ∧ integerBound ≤ i.natAbs := by
  cases n with
  | int i =>
    by_cases h : i.natAbs < integerBound
    · simp only [toFloat, if_pos h, reduceCtorEq, int.injEq, exists_eq_left', false_iff, not_and,
        Nat.not_le]
      exact fun _ => h
    · simp only [toFloat, if_neg h, Except.error.injEq, int.injEq, exists_eq_left',
        Nat.not_lt.1 h, and_true]
      exact eq_comm
  | real x => simp [toFloat]

/-- The sum of two numbers. -/
def add : Num → Num → Except Fault Num
  | int i, int j => .ok (int (i + j))
  | m, n => do return real ((← m.toFloat) + (← n.toFloat))

/-- The difference of two numbers. -/
def sub : Num → Num → Except Fault Num
  | int i, int j => .ok (int (i - j))
  | m, n => do return real ((← m.toFloat) - (← n.toFloat))

/-- The exact order of two numbers; none when one of them is NaN. -/
def compare? : Num → Num → Option Ordering
  | int i, int j => some (compare i j)
  | real x, int j => Binary64.compareInt? x j
  | int i, real y => (Binary64.compareInt? y i).map Ordering.swap
  | real x, real y =>
    if x < y then some .lt else if y < x then some .gt else if x == y then some .eq else none

/-- Whether one number is below another. -/
def lt (m n : Num) : Bool := compare? m n == some .lt

/-- Whether one number is below another or equal to it. -/
def le (m n : Num) : Bool := (compare? m n).any Ordering.isLE

/-- The nearest integer, a half going to the even neighbour. -/
def round : Num → Except Fault Int
  | int i => .ok i
  | real x => Binary64.round x

/-- Whether the number is finite; an integer is asked for its double first. -/
def isFinite (n : Num) : Except Fault Bool := do return (← n.toFloat).isFinite

/-- Whether a number counts as nothing given: zero of either type. -/
def isZero : Num → Bool
  | int i => i == 0
  | real x => x == 0

end Num

end Straightedge
