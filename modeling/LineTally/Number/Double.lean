namespace LineTally

/-!
# Double-precision numbers

A finite number is a sign, a mantissa and a power of two.  The only way to make
one here is to round an exact quotient of natural numbers: to the nearest number
of 53 bits whose unit is at least `2 ^ (-1074)`, a tie going to the even
mantissa.  All of it is integer arithmetic.
-/

/-- A double-precision number; a finite one is `± mantissa * 2 ^ exponent`. -/
inductive Double where
  | finite (negative : Bool) (mantissa : Nat) (exponent : Int)
  | infinite (negative : Bool)
  | nan
  deriving Repr, DecidableEq

namespace Double

/-- How many bits a mantissa has at most. -/
def precision : Nat := 53

/-- The least exponent of a unit. -/
def minExponent : Int := -1074

/-- The greatest exponent of a unit. -/
def maxExponent : Int := 971

/-- Zero, with a sign. -/
def zero
    (negative : Bool) :
    Double :=
  .finite negative 0 minExponent

/-- Numerator and denominator of a quotient that is divided by a power of two. -/
def scaleDown
    (exponent : Int)
    (numerator denominator : Nat) :
    Nat × Nat :=
  match exponent with
  | .ofNat e => (numerator, denominator * Nat.pow 2 e)
  | .negSucc e => (numerator * Nat.pow 2 (e + 1), denominator)

/-- The whole number nearest to a quotient; a tie goes to the even one. -/
def nearest
    (numerator denominator : Nat) :
    Nat :=
  let quotient := numerator / denominator
  let excess := 2 * (numerator % denominator)
  if excess < denominator then
    quotient
  else if denominator < excess then
    quotient + 1
  else
    quotient + quotient % 2

/-- The exponent of the unit in which a positive quotient has 53 bits, or the least one. -/
def unitExponent
    (numerator denominator : Nat) :
    Int :=
  let guess : Int := (numerator.log2 : Int) - denominator.log2 - precision
  let (n, d) := scaleDown guess numerator denominator
  let exact := if n / d < Nat.pow 2 precision then guess else guess + 1
  max exact minExponent

/-- The double nearest to a quotient with a positive denominator. -/
def ofQuotient
    (negative : Bool)
    (numerator denominator : Nat) :
    Double :=
  if numerator = 0 then
    zero negative
  else
    let exponent := unitExponent numerator denominator
    let (n, d) := scaleDown exponent numerator denominator
    let mantissa := nearest n d
    let (mantissa, exponent) :=
      if mantissa = Nat.pow 2 precision then
        (Nat.pow 2 (precision - 1), exponent + 1)
      else
        (mantissa, exponent)
    if maxExponent < exponent then
      .infinite negative
    else
      .finite negative mantissa exponent

/-- The double nearest to `± digits * 10 ^ power`. -/
def ofDecimal
    (negative : Bool)
    (digits : Nat)
    (power : Int) :
    Double :=
  let size : Int := power + (digits.log2 * 30103 / 100000 : Nat)
  if digits = 0 || size < -400 then
    zero negative
  else if 400 < size then
    .infinite negative
  else
    match power with
    | .ofNat p => ofQuotient negative (digits * Nat.pow 10 p) 1
    | .negSucc p => ofQuotient negative digits (Nat.pow 10 (p + 1))

/--
The double nearest to the quotient of two whole numbers, or `none` if it lies
beyond the finite ones.  A zero over a negative number keeps the sign.
-/
def divide?
    (numerator denominator : Int) :
    Option Double :=
  let negative := decide (numerator < 0) != decide (denominator < 0)
  match ofQuotient negative numerator.natAbs denominator.natAbs with
  | .finite negative mantissa exponent => some (.finite negative mantissa exponent)
  | _ => none

end Double

end LineTally
