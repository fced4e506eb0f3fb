/-!
# Finite doubles

The finite binary64 numbers in exact arithmetic: a sign, a significand and a power of two. Every
rounding goes through `roundRatio?`, which takes the nearest double and the even one on a tie.
-/

namespace EventDelivery

/-- A significand and an exponent in the one form each finite binary64 magnitude has: 53 bits with
a leading one, or fewer bits at the least exponent. -/
def Double.Canonical (significand : Nat) (exponent : Int) : Prop :=
  (Nat.pow 2 52 ≤ significand ∧ significand < Nat.pow 2 53 ∧
    -1074 ≤ exponent ∧ exponent ≤ 971) ∨
  (significand < Nat.pow 2 52 ∧ exponent = -1074)

instance (significand : Nat) (exponent : Int) :
    Decidable (Double.Canonical significand exponent) :=
  inferInstanceAs (Decidable (_ ∨ _))

/-- The finite binary64 number `± significand * 2 ^ exponent`; zero has two signs. -/
structure Double where
  /-- Whether the sign bit is set. -/
  negative : Bool
  /-- The significand as a whole number. -/
  significand : Nat
  /-- The power of two it is scaled by. -/
  exponent : Int
  /-- Each number is represented once. -/
  canonical : Double.Canonical significand exponent
deriving DecidableEq

namespace Double

/-- Zero with a sign. -/
def zero (negative : Bool) : Double := ⟨negative, 0, -1074, by decide⟩

instance : Inhabited Double := ⟨zero false⟩

/-- Whether the number is a zero of either sign. -/
def isZero (x : Double) : Bool := x.significand == 0

/-- The quotient rounded to the nearest whole number, to the even one on a tie. -/
private def roundDiv (num den : Nat) : Nat :=
  let quotient := num / den
  let twice := 2 * (num % den)
  if twice < den then quotient
  else if den < twice then quotient + 1
  else quotient + quotient % 2

/-- A ratio times a power of two, as numerator and denominator. -/
def scaleRatio (num den : Nat) (power : Int) : Nat × Nat :=
  (num * Nat.pow 2 power.toNat, den * Nat.pow 2 (-power).toNat)

/-- The double nearest to `± num / den`, the even one on a tie; none when the magnitude rounds
beyond the largest finite double. -/
def roundRatio? (negative : Bool) (num den : Nat) : Option Double :=
  if num = 0 then some (zero negative)
  else
    let guess : Int := (Nat.log2 num : Int) - Nat.log2 den - 52
    let scaled := scaleRatio num den (-guess)
    let tight := if scaled.1 < Nat.pow 2 52 * scaled.2 then guess - 1 else guess
    let exponent := max tight (-1074)
    let final := scaleRatio num den (-exponent)
    let significand := roundDiv final.1 final.2
    let carried : Nat × Int :=
      if significand = Nat.pow 2 53 then (Nat.pow 2 52, exponent + 1)
      else (significand, exponent)
    if h : Canonical carried.1 carried.2 then some ⟨negative, carried.1, carried.2, h⟩ else none

/-- The magnitude as numerator and denominator. -/
def ratio (x : Double) : Nat × Nat := scaleRatio x.significand 1 x.exponent

/-- The double nearest to a whole number; magnitudes below `2 ^ 1023` never overflow. -/
def ofInt (n : Int) : Double :=
  (roundRatio? (decide (n < 0)) n.natAbs 1).getD (zero false)

/-- The product, rounded once; none on overflow. -/
def mul? (x y : Double) : Option Double :=
  roundRatio? (x.negative != y.negative) (x.ratio.1 * y.ratio.1) (x.ratio.2 * y.ratio.2)

/-- The quotient by a nonzero double, rounded once; none on overflow. -/
def div? (x y : Double) : Option Double :=
  roundRatio? (x.negative != y.negative) (x.ratio.1 * y.ratio.2) (x.ratio.2 * y.ratio.1)

/-- The double nearest to a power of ten; none from `10 ^ 309` on. -/
def powerOfTen? (power : Nat) : Option Double :=
  if power ≤ 308 then roundRatio? false (Nat.pow 10 power) 1 else none

/-- Whether two doubles are equal as numbers: zeros of both signs are. -/
def sameNumber (x y : Double) : Bool :=
  (x.isZero && y.isZero) || x = y

/-- The number as a fraction: a numerator with the sign, and a positive denominator. -/
def fraction (x : Double) : Int × Nat :=
  (if x.negative then -(x.ratio.1 : Int) else (x.ratio.1 : Int), x.ratio.2)

/-- Whether the number has no digits after the point. -/
def isIntegral (x : Double) : Bool := x.ratio.1 % x.ratio.2 == 0

/-- Whether the number is a whole multiple of another one, exactly. -/
def isMultiple (x y : Double) : Bool :=
  x.ratio.1 * y.ratio.2 % (x.ratio.2 * y.ratio.1) == 0

/-- Whether what the number has after the point is less than the distance from one to the next
double. For negative numbers it is. -/
def isNearlyIntegral (x : Double) : Bool :=
  x.negative || x.ratio.1 % x.ratio.2 * Nat.pow 2 52 < x.ratio.2

/-- Reads `± significand * 10 ^ power`: the significand is rounded first and then scaled by the
nearest double to the power of ten with one more rounding, in two steps below `10 ^ -308`.
None when a nonzero significand leaves the finite range. -/
def ofScaled? (negative : Bool) (significand : Nat) (power : Int) : Option Double := do
  let rounded ← roundRatio? negative significand 1
  if rounded.isZero then some rounded
  else if 0 ≤ power then rounded.mul? (← powerOfTen? power.toNat)
  else if -308 ≤ power then rounded.div? (← powerOfTen? (-power).toNat)
  else if -616 ≤ power then
    (← rounded.div? (← powerOfTen? 308)).div? (← powerOfTen? (-power - 308).toNat)
  else some (zero negative)

end Double

end EventDelivery
