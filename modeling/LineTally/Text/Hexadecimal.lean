import LineTally.Number.Decimal

namespace LineTally.Text

/-!
# Hexadecimal digits

Numbers are written with small letters, and read with letters of either case.
-/

/-- The character of a hexadecimal digit. -/
def hexDigit
    (value : Nat) :
    Char :=
  if value < 10 then
    Char.ofNat ('0'.toNat + value)
  else
    Char.ofNat ('a'.toNat + (value - 10))

/-- The last hexadecimal digits of a number, exactly as many as asked for. -/
def hexDigits :
    Nat → Nat → Text
  | 0, _ => []
  | width + 1, n => hexDigits width (n / 16) ++ [hexDigit (n % 16)]

/-- The value of a hexadecimal digit. -/
def hexValue?
    (c : Char) :
    Option Nat :=
  if '0' ≤ c && c ≤ '9' then
    some (c.toNat - '0'.toNat)
  else if 'a' ≤ c && c ≤ 'f' then
    some (c.toNat - 'a'.toNat + 10)
  else if 'A' ≤ c && c ≤ 'F' then
    some (c.toNat - 'A'.toNat + 10)
  else
    none

/-- The number that some hexadecimal digits stand for. -/
def hexNumber?
    (digits : Text) :
    Option Nat :=
  (digits.mapM hexValue?).map (Decimal.valueIn 16)

end LineTally.Text
