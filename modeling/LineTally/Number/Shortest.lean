import LineTally.Number.Decimal
import LineTally.Number.Double

namespace LineTally.Double

/-!
# The shortest decimal notation of a double

Of all decimal numbers that round to a given double, the notation shows one
with the fewest digits, and of those the one nearest to the double.  The
numbers that round to it form an interval whose ends belong to it exactly if
its mantissa is even.  For one digit, two digits and so on the search looks at
the two multiples of the digit's unit next to the double.
-/

/-- A positive number as a fraction, with the interval of numbers that round to it. -/
structure Rounding where
  low : Nat
  value : Nat
  high : Nat
  denominator : Nat
  /-- Whether the two ends of the interval belong to it. -/
  closed : Bool
  deriving Repr, DecidableEq

/-- The interval of numbers that round to `mantissa * 2 ^ exponent`. -/
def rounding
    (mantissa : Nat)
    (exponent : Int) :
    Rounding :=
  let narrow := mantissa = Nat.pow 2 (precision - 1) && minExponent < exponent
  let quarters : Int := exponent - 2
  let power := Nat.pow 2 quarters.toNat
  { low := (4 * mantissa - if narrow then 1 else 2) * power
    value := 4 * mantissa * power
    high := (4 * mantissa + 2) * power
    denominator := Nat.pow 2 (-quarters).toNat
    closed := mantissa % 2 = 0 }

/-- A decimal number `digits * 10 ^ power`. -/
structure Scientific where
  digits : Nat
  power : Int
  deriving Repr, DecidableEq

namespace Rounding

/-- Whether `digits` units lie in the interval, the unit being a fraction. -/
def holds
    (interval : Rounding)
    (digits unitNumerator unitDenominator : Nat) :
    Bool :=
  let point := digits * unitNumerator * interval.denominator
  let low := interval.low * unitDenominator
  let high := interval.high * unitDenominator
  if interval.closed then
    low ≤ point && point ≤ high
  else
    low < point && point < high

/-- The multiple of a power of ten that lies in the interval next to its value, if any does. -/
def pick?
    (interval : Rounding)
    (power : Int) :
    Option Nat :=
  let unitNumerator := Nat.pow 10 power.toNat
  let unitDenominator := Nat.pow 10 (-power).toNat
  let n := interval.value * unitDenominator
  let d := interval.denominator * unitNumerator
  let below := n / d
  let near := nearest n d
  let far := if near = below then below + 1 else below
  if interval.holds near unitNumerator unitDenominator then
    some near
  else if interval.holds far unitNumerator unitDenominator then
    some far
  else
    none

/-- The first hit for the given power of ten and as many smaller ones as the fuel allows. -/
def search
    (interval : Rounding) :
    Nat → Int → Scientific
  | 0, power => ⟨0, power⟩
  | fuel + 1, power =>
      match interval.pick? power with
      | some digits => ⟨digits, power⟩
      | none => search interval fuel (power - 1)

/-- The greatest power of ten that does not exceed the value. -/
def leadingPower
    (interval : Rounding) :
    Int :=
  if interval.denominator ≤ interval.value then
    (Decimal.ofNat (interval.value / interval.denominator)).length - 1
  else
    let places := Decimal.ofNat ((interval.denominator - 1) / interval.value)
    0 - (places.length : Int)

end Rounding

/-- The fewest digits that round to a positive double, and the power of ten of their unit. -/
def shortest
    (mantissa : Nat)
    (exponent : Int) :
    Scientific :=
  let interval := rounding mantissa exponent
  interval.search 17 interval.leadingPower

/-- The digits of a positive number without zeros at their end. -/
def dropZeros
    (digits : Text) :
    Text :=
  (digits.reverse.dropWhile (· = '0')).reverse

/-- The notation with a power of ten, whose exponent has a sign and two digits at least. -/
def scientificText
    (digits : Text)
    (power : Int) :
    Text :=
  let fraction :=
    match digits with
    | first :: second :: rest => first :: '.' :: second :: rest
    | few => few
  let sign := if power < 0 then '-' else '+'
  fraction ++ 'e' :: sign :: Decimal.padLeft 2 (Decimal.ofNat power.natAbs)

/-- The notation without a power of ten; `point` digits stand before the point. -/
def positionalText
    (digits : Text)
    (point : Int) :
    Text :=
  if point ≤ 0 then
    "0.".toList ++ List.replicate (-point).toNat '0' ++ digits
  else if digits.length ≤ point.toNat then
    digits ++ List.replicate (point.toNat - digits.length) '0' ++ ".0".toList
  else
    digits.take point.toNat ++ '.' :: digits.drop point.toNat

/--
The shortest notation of a double.  Numbers from `0.0001` up to, and without,
`10 ^ 16` are written without a power of ten.
-/
def toText :
    Double → Text
  | .nan => "nan".toList
  | .infinite negative => (if negative then ['-'] else []) ++ "inf".toList
  | .finite negative mantissa exponent =>
      let unsigned :=
        if mantissa = 0 then
          "0.0".toList
        else
          let found := shortest mantissa exponent
          let all := Decimal.ofNat found.digits
          let point := all.length + found.power
          let digits := dropZeros all
          if -4 < point && point ≤ 16 then
            positionalText digits point
          else
            scientificText digits (point - 1)
      if negative then '-' :: unsigned else unsigned

end LineTally.Double
