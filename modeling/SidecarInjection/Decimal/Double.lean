import SidecarInjection.Decimal.Natural

/-!
# `SidecarInjection.Decimal.Double`: finite binary64 numbers

A `Double` is a sign, a whole significand and a power of two. Decimal text is
read exactly: the nearest number is taken, and of two equally near ones the one
with the even significand.
-/

set_option autoImplicit false

namespace SidecarInjection.Decimal

/-- The number `± significand * 2 ^ exponent`. Numbers are held in one form: the
significand has 53 bits, or the exponent is `-1074`. -/
structure Double where
  negative : Bool
  significand : Nat
  exponent : Int
  deriving DecidableEq, Repr, Inhabited

namespace Double

/-- Zero with a sign. -/
def zero (negative : Bool) : Double := ⟨negative, 0, -1074⟩

/-- `n / d` to the nearest whole number, halves to the even one. -/
def divRound (n d : Nat) : Nat :=
  let q := n / d
  let twice := 2 * (n % d)
  if twice < d then q else if d < twice then q + 1 else if q % 2 = 0 then q else q + 1

/-- The fraction `num / den` measured in units of `2 ^ e`, as a fraction. -/
def scaled (num den : Nat) (e : Int) : Nat × Nat :=
  if 0 ≤ e then (num, den * Nat.pow 2 e.toNat) else (num * Nat.pow 2 (-e).toNat, den)

/-- The number nearest to `± num / den`, or nothing when it is out of range. -/
def ofFraction? (negative : Bool) (num den : Nat) : Option Double :=
  if num = 0 then some (zero negative) else
  let low : Int := (num.log2 : Int) - (den.log2 : Int) - 53
  let atLow := scaled num den low
  let e : Int := max (if Nat.pow 2 53 ≤ atLow.1 / atLow.2 then low + 1 else low) (-1074)
  let s := scaled num den e
  let m := divRound s.1 s.2
  let r := if m = Nat.pow 2 53 then (⟨negative, Nat.pow 2 52, e + 1⟩ : Double) else ⟨negative, m, e⟩
  if 971 < r.exponent then none else some r

/-- The number nearest to `± digits * 10 ^ power`, or nothing when it is out of
range. Powers far outside the range are not computed. -/
def ofDecimal? (negative : Bool) (digits : Nat) (power : Int) : Option Double :=
  if digits = 0 then some (zero negative) else
  let magnitude : Int := (render digits).length + power
  if 320 < magnitude then none
  else if magnitude < -340 then some (zero negative)
  else if 0 ≤ power then ofFraction? negative (digits * Nat.pow 10 power.toNat) 1
  else ofFraction? negative digits (Nat.pow 10 (-power).toNat)

/-- The longest run of decimal digits at the start, and the rest. -/
def spanDigits (s : List Char) : List Char × List Char :=
  (s.takeWhile isDigit, s.dropWhile isDigit)

/-- The value of digits, zero when there are none. -/
def digitsValue (ds : List Char) : Nat := ds.foldl (fun n c => n * 10 + digitValue c) 0

/-- The exponent part of a number: nothing, or `e` and a signed number. -/
def readExponent : List Char → Option Int
  | [] => some 0
  | c :: rest =>
    if c = 'e' || c = 'E' then
      match rest with
      | '-' :: ds => (Decimal.read ds).map fun n => -(n : Int)
      | '+' :: ds => (Decimal.read ds).map fun n => (n : Int)
      | ds => (Decimal.read ds).map fun n => (n : Int)
    else none

/-- The number written without a sign, as digits and a power of ten. There is a
digit before or after the point. -/
def readUnsigned (s : List Char) : Option (Nat × Int) :=
  let whole := spanDigits s
  let fraction :=
    match whole.2 with
    | '.' :: rest => spanDigits rest
    | rest => ([], rest)
  if whole.1.isEmpty && fraction.1.isEmpty then none
  else (readExponent fraction.2).map fun e =>
    (digitsValue (whole.1 ++ fraction.1), e - fraction.1.length)

/-- The number written in decimal with an optional sign, point and exponent.
Numbers out of range are not read. -/
def read? (s : List Char) : Option Double :=
  match s with
  | '-' :: rest => (readUnsigned rest).bind fun r => ofDecimal? true r.1 r.2
  | '+' :: rest => (readUnsigned rest).bind fun r => ofDecimal? false r.1 r.2
  | rest => (readUnsigned rest).bind fun r => ofDecimal? false r.1 r.2

end Double

end SidecarInjection.Decimal
