import EventDelivery.Decimal.Double
/-!
# Shortest decimals of doubles

The fewest decimal digits that read back as a given double, and among those the digits nearest to
it. The search runs over decimal grids of 1 to 17 digits in exact arithmetic: when a point of a grid
lies among the numbers that round to the double, so does one of its two neighbours on that grid.
-/

namespace EventDelivery.Decimal

/-- A decimal magnitude `digits * 10 ^ power`. -/
structure Scientific where
  /-- The digits as a whole number. -/
  digits : Nat
  /-- The power of ten of the last digit. -/
  power : Int
deriving DecidableEq, Repr

/-- `num / den` divided by a power of ten, as numerator and denominator. -/
def unscale (num den : Nat) (power : Int) : Nat × Nat :=
  (num * Nat.pow 10 (-power).toNat, den * Nat.pow 10 power.toNat)

/-- Whether `10 ^ power ≤ num / den`. -/
private def powerLe (num den : Nat) (power : Int) : Bool :=
  (unscale num den power).2 ≤ (unscale num den power).1

/-- The power of ten of the leading digit of a positive ratio. -/
private def leadingPower (num den : Nat) : Int :=
  let low : Int := ((Nat.log2 num : Int) - Nat.log2 den) * 30103 / 100000 - 1
  low + ([1, 2, 3].countP fun step : Nat => powerLe num den (low + step))

/-- The numbers that round to a double, as three numerators over one denominator: the least, the
number itself and the greatest; the ends belong to them when the significand is even. -/
structure Interval where
  low : Nat
  mid : Nat
  high : Nat
  den : Nat
  closed : Bool

/-- The interval of a positive double: half the gap to each neighbour. -/
def Interval.around (x : Double) : Interval :=
  let lowGap := if x.significand = Nat.pow 2 52 ∧ x.exponent ≠ -1074 then 1 else 2
  let up := Nat.pow 2 x.exponent.toNat
  let down := Nat.pow 2 (-x.exponent).toNat
  { low := (4 * x.significand - lowGap) * up
    mid := 4 * x.significand * up
    high := (4 * x.significand + 2) * up
    den := 4 * down
    closed := x.significand % 2 == 0 }

/-- Whether the point `count * 10 ^ power` lies in the interval. -/
def Interval.holds (i : Interval) (count : Nat) (power : Int) : Bool :=
  let point := count * Nat.pow 10 power.toNat * i.den
  let scale := Nat.pow 10 (-power).toNat
  if i.closed then i.low * scale ≤ point && point ≤ i.high * scale
  else i.low * scale < point && point < i.high * scale

/-- The point of a grid in the interval that is nearest to its middle; the even one of two equally
near points. -/
def Interval.nearestOn? (i : Interval) (power : Int) : Option Nat :=
  let cell := unscale i.mid i.den power
  let below := cell.1 / cell.2
  let twice := 2 * (cell.1 % cell.2)
  match i.holds below power, i.holds (below + 1) power with
  | true, true =>
    some (if twice < cell.2 then below
      else if cell.2 < twice then below + 1 else below + below % 2)
  | true, false => some below
  | false, true => some (below + 1)
  | false, false => none

/-- Moves the zeros at the end of the digits into the power, at most `fuel` of them. -/
private def stripZeros : Nat → Scientific → Scientific
  | 0, s => s
  | fuel + 1, s =>
    if s.digits ≠ 0 ∧ s.digits % 10 = 0 then stripZeros fuel ⟨s.digits / 10, s.power + 1⟩ else s

/-- The shortest digits of the magnitude of a nonzero double. -/
def shortest (x : Double) : Scientific :=
  let i := Interval.around x
  let lead := leadingPower i.mid i.den
  let found := (List.range 17).findSome? fun extra : Nat =>
    (i.nearestOn? (lead - extra)).map fun digits => (⟨digits, lead - extra⟩ : Scientific)
  stripZeros 17 (found.getD ⟨x.ratio.1 / x.ratio.2, 0⟩)

/-- How the digits of a floating-point number are laid out. -/
structure Layout where
  /-- Least count of digits before the point, plus the zeros it needs, in positional form. -/
  leastPoint : Int
  /-- Greatest such count. -/
  greatestPoint : Int
  /-- The mark between digits and exponent. -/
  mark : String
  /-- The sign written before an exponent that is not negative. -/
  plus : String

/-- Writes digits in a layout: in positional form they always have a point with a digit on each
side; in the form with an exponent a point only when there are two digits or more. -/
def Layout.render (layout : Layout) (s : Scientific) : String :=
  let ds := (Nat.repr s.digits).toList
  let point : Int := ds.length + s.power
  if layout.leastPoint ≤ point ∧ point ≤ layout.greatestPoint then
    if 0 < point then
      let whole := ds.take point.toNat ++ List.replicate (point - ds.length).toNat '0'
      let fraction := ds.drop point.toNat
      String.ofList (whole ++ '.' :: (if fraction.isEmpty then ['0'] else fraction))
    else String.ofList ('0' :: '.' :: (List.replicate (-point).toNat '0' ++ ds))
  else
    let exponent := point - 1
    let power := (if exponent < 0 then "-" else layout.plus) ++ Nat.repr exponent.natAbs
    match ds with
    | [] => ""
    | [d] => String.ofList [d] ++ layout.mark ++ power
    | d :: rest => String.ofList (d :: '.' :: rest) ++ layout.mark ++ power

/-- Writes digits without an exponent, and with a point only before digits other than zero. -/
def Scientific.plainText (s : Scientific) : String :=
  let ds := (Nat.repr s.digits).toList
  let point : Int := ds.length + s.power
  let whole :=
    if 0 < point then ds.take point.toNat ++ List.replicate (point - ds.length).toNat '0'
    else ['0']
  let fraction :=
    if 0 < point then ds.drop point.toNat else List.replicate (-point).toNat '0' ++ ds
  String.ofList (if fraction.isEmpty then whole else whole ++ '.' :: fraction)

/-- The shortest text of a double without an exponent. -/
def plainText (x : Double) : String :=
  (if x.negative then "-" else "") ++ (if x.isZero then "0" else (shortest x).plainText)

/-- Whether one decimal is a whole multiple of another one. -/
def Scientific.isMultiple (s t : Scientific) : Bool :=
  let shift := s.power - t.power
  s.digits * Nat.pow 10 shift.toNat % (t.digits * Nat.pow 10 (-shift).toNat) == 0

/-- The shortest text of a double in a layout. -/
def Layout.text (layout : Layout) (x : Double) : String :=
  (if x.negative then "-" else "") ++
    (if x.isZero then "0.0" else layout.render (shortest x))

end EventDelivery.Decimal
