import Straightedge.Number.Basic

/-!
# Shortest decimal text of a double

A double is written with the fewest decimal digits that read back as it; of two
such numbers the nearer one is taken. Exponents from -4 to 15 are written
positionally with at least one digit after the point, others with a signed
exponent of at least two digits.
-/

namespace Straightedge.Shortest

/-- A decimal number `digits * 10 ^ exponent`. -/
structure Decimal where
  digits : Nat
  exponent : Int
  deriving DecidableEq, Repr

/-- The double nearest to a decimal number. -/
def Decimal.toFloat (d : Decimal) : Float :=
  if 0 ≤ d.exponent then Float.ofScientific d.digits false d.exponent.toNat
  else Float.ofScientific d.digits true (-d.exponent).toNat

/-- The place of the leading digit of a fraction below one, as the number of places by
which the point moves right; `fuel` bounds the search. -/
def leadingPlace (den : Nat) : (fuel num : Nat) → Nat
  | 0, _ => 0
  | fuel + 1, num => if den ≤ num * 10 then 0 else leadingPlace den fuel (num * 10) + 1

/-- The number of digits before the point; zero or negative when the value is below a tenth. -/
def pointPlace (num den : Nat) : Int :=
  if den ≤ num then (Nat.toDigits 10 (num / den)).length
  else -(leadingPlace den 400 num : Int)

/-- The neighbours of a positive fraction among the multiples of `10 ^ exponent`, the nearer
one first; of two equally near ones the even one comes first. -/
def neighbours (num den : Nat) (exponent : Int) : List Decimal :=
  let n := num * Nat.pow 10 (-exponent).toNat
  let d := den * Nat.pow 10 exponent.toNat
  let low : Decimal := ⟨n / d, exponent⟩
  let high : Decimal := ⟨n / d + 1, exponent⟩
  let twice := 2 * (n % d)
  if twice = 0 then [low]
  else if twice < d ∨ (twice = d ∧ low.digits % 2 = 0) then [low, high] else [high, low]

/-- The shortest decimal that reads back as a positive double, trying `count` digits and
then more while the fuel lasts. -/
def search (x : Float) (num den : Nat) : (fuel count : Nat) → Decimal
  | 0, _ => ⟨num, 0⟩
  | fuel + 1, count =>
    match (neighbours num den (pointPlace num den - count)).find? (·.toFloat == x) with
    | some d => d
    | none => search x num den fuel (count + 1)

/-- The decimal text of the digits `ds` with the point after `place` of them. -/
def layout (ds : List Char) (place : Int) : List Char :=
  if -3 ≤ place ∧ place ≤ 16 then
    if place ≤ 0 then '0' :: '.' :: List.replicate (-place).toNat '0' ++ ds
    else if place.toNat < ds.length then ds.take place.toNat ++ '.' :: ds.drop place.toNat
    else ds ++ List.replicate (place.toNat - ds.length) '0' ++ ['.', '0']
  else
    let mantissa := match ds with
      | [] => []
      | [d] => [d]
      | d :: rest => d :: '.' :: rest
    let exponent := Nat.toDigits 10 (place - 1).natAbs
    mantissa ++ 'e' :: (if place ≤ 0 then '-' else '+') ::
      (if exponent.length < 2 then '0' :: exponent else exponent)

/-- Digits of a decimal number, without the zeros they end in, and the place of the point. -/
structure Digits where
  digits : List Char
  place : Int
  deriving DecidableEq, Repr

/-- The digits of a decimal number. -/
def Decimal.split (d : Decimal) : Digits :=
  let ds := Nat.toDigits 10 d.digits
  ⟨(ds.reverse.dropWhile (· == '0')).reverse, d.exponent + ds.length⟩

/-- The text of a double. -/
def text (x : Float) : String :=
  match Binary64.parts? x with
  | none => if x.isNaN then "nan" else if x < 0 then "-inf" else "inf"
  | some p =>
    let sign := if Binary64.isNegative x then "-" else ""
    let num := p.num.natAbs
    if num = 0 then sign ++ "0.0"
    else
      let d := (search x.abs num p.den 17 1).split
      sign ++ String.ofList (layout d.digits d.place)

end Straightedge.Shortest

namespace Straightedge

/-- The text of a number: an integer in full, a double in its shortest form. -/
def Num.text : Num → String
  | .int i => toString i
  | .real x => Shortest.text x

end Straightedge
