import SidecarInjection.Decimal.Double

/-!
# `SidecarInjection.Decimal.Shortest`: the shortest decimal that reads back

`Double.shortest` gives the fewest digits that still name the number, and of
those the nearest ones. `Double.text` lays them out with a point, or with an
exponent when the number is very large or very small. `Double.signedText` differs
from it in the plus sign of exponents that are not negative.
-/

set_option autoImplicit false

namespace SidecarInjection.Decimal.Double

/-- The value in quarter units of its last place, as a fraction, with the
distances to the ends of the interval of reals that round to it. -/
structure Interval where
  value : Nat
  below : Nat
  above : Nat
  unit : Nat
  closed : Bool

/-- The interval of reals that round to a number. Its ends belong to it when
the significand is even. -/
def interval (x : Double) : Interval :=
  let e := x.exponent - 2
  let up := if 0 ≤ e then Nat.pow 2 e.toNat else 1
  let unit := if 0 ≤ e then 1 else Nat.pow 2 (-e).toNat
  let below := if x.significand = Nat.pow 2 52 && x.exponent != -1074 then 1 else 2
  ⟨4 * x.significand * up, below * up, 2 * up, unit, x.significand % 2 = 0⟩

/-- Whether `value` is at least `10 ^ p` units. -/
def atLeastPower (value unit : Nat) (p : Int) : Bool :=
  if 0 ≤ p then unit * Nat.pow 10 p.toNat ≤ value else unit ≤ value * Nat.pow 10 (-p).toNat

/-- The power of ten of the first digit of `value / unit`. The guess is off by
one at most. -/
def leadingPower (value unit : Nat) : Int :=
  let guess : Int := (((value.log2 : Int) - (unit.log2 : Int)) * 30103) / 100000
  if atLeastPower value unit (guess + 1) then guess + 1
  else if atLeastPower value unit guess then guess else guess - 1

/-- The digits of a number on the grid of step `10 ^ power`, if the interval
holds a point of that grid: the nearer neighbour of the value, and the even one
of two equally near ones. -/
def onGrid (i : Interval) (power : Int) : Option Nat :=
  -- everything measured in `1 / scale` of a grid step
  let num := if 0 ≤ power then 1 else Nat.pow 10 (-power).toNat
  let scale := if 0 ≤ power then i.unit * Nat.pow 10 power.toNat else i.unit
  let value := i.value * num
  let lower := value / scale
  let gapDown := value - lower * scale
  let gapUp := (lower + 1) * scale - value
  let fits (gap width : Nat) : Bool := if i.closed then gap ≤ width else gap < width
  let downFits := fits gapDown (i.below * num) && lower != 0
  let upFits := fits gapUp (i.above * num)
  if downFits && upFits then
    if gapDown < gapUp then some lower
    else if gapUp < gapDown then some (lower + 1)
    else if lower % 2 = 0 then some lower else some (lower + 1)
  else if downFits then some lower
  else if upFits then some (lower + 1)
  else none

/-- The first grid with a point in the interval, from coarse to fine. -/
def firstGrid (i : Interval) (power : Int) : Nat → Nat × Int
  | 0 => (0, 0)
  | tries + 1 =>
    match onGrid i power with
    | some digits => (digits, power)
    | none => firstGrid i (power - 1) tries

/-- Removes up to `times` zeros from the end of the digits. -/
def stripZeros (digits : Nat) (power : Int) : Nat → Nat × Int
  | 0 => (digits, power)
  | times + 1 =>
    if digits % 10 = 0 then stripZeros (digits / 10) (power + 1) times else (digits, power)

/-- The shortest digits and the power of ten of the last one. -/
def shortest (x : Double) : Nat × Int :=
  if x.significand = 0 then (0, 0) else
  let i := x.interval
  let found := firstGrid i (leadingPower i.value i.unit) 18
  stripZeros found.1 found.2 20

/-- The sign of a number. -/
def sign (x : Double) : String := if x.negative then "-" else ""

/-- Digits without an exponent. There is always a point with a digit after it. -/
def layoutPlain (digits : Nat) (power : Int) : String :=
  let ds := render digits
  if 0 ≤ power then
    String.ofList (ds ++ List.replicate power.toNat '0' ++ ['.', '0'])
  else
    let places := (-power).toNat
    if places < ds.length then
      String.ofList (ds.take (ds.length - places) ++ '.' :: ds.drop (ds.length - places))
    else
      String.ofList (['0', '.'] ++ List.replicate (places - ds.length) '0' ++ ds)

/-- Digits with one digit before the point and an exponent. `plus` stands before
an exponent that is not negative. -/
def layoutExponent (plus : String) (digits : Nat) (power : Int) : String :=
  let ds := render digits
  let exponent := power + ds.length - 1
  String.ofList (ds.take 1 ++ (if ds.length = 1 then [] else '.' :: ds.drop 1)) ++
    "e" ++ (if exponent < 0 then "" else plus) ++ intText exponent

/-- The shortest text with this sign of exponents. Numbers from `1e-5` up to
`1e16` are written without an exponent. -/
def textWith (plus : String) (x : Double) : String :=
  let d := x.shortest
  let point : Int := (render d.1).length + d.2
  x.sign ++
    (if -5 < point && point ≤ 16 then layoutPlain d.1 d.2 else layoutExponent plus d.1 d.2)

/-- The shortest text, as in `1e20`. -/
def text : Double → String := textWith ""

/-- The shortest text, as in `1e+20`. -/
def signedText : Double → String := textWith "+"

end SidecarInjection.Decimal.Double
