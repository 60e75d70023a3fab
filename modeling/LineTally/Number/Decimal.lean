import LineTally.Text.Basic

namespace LineTally.Decimal

/-!
# Whole numbers in decimal notation

Writing gives the digits without leading zeros, after a minus sign if the
number is negative.  Reading is by value of the digits and takes leading zeros
too.
-/

/-- The character of a digit. -/
def digit
    (value : Nat) :
    Char :=
  Char.ofNat ('0'.toNat + value)

/-- The value of a digit. -/
def digitValue
    (c : Char) :
    Nat :=
  c.toNat - '0'.toNat

/-- The last digits of a number, as many as it has if the fuel allows. -/
def digitsWithin :
    Nat → Nat → Text
  | 0, _ => []
  | fuel + 1, n =>
      if n < 10 then
        [digit n]
      else
        digitsWithin fuel (n / 10) ++ [digit (n % 10)]

/-- The decimal digits of a natural number. -/
def ofNat
    (n : Nat) :
    Text :=
  digitsWithin (n + 1) n

/-- The decimal notation of a whole number. -/
def ofInt :
    Int → Text
  | .ofNat n => ofNat n
  | .negSucc n => '-' :: ofNat (n + 1)

/-- The number that a run of digits in a base stands for, given each digit's value. -/
def valueIn
    (base : Nat)
    (values : List Nat) :
    Nat :=
  values.foldl (fun value next => base * value + next) 0

/-- The number that a run of decimal digits stands for. -/
def valueOf
    (digits : Text) :
    Nat :=
  valueIn 10 (digits.map digitValue)

/-- The text filled up on its left with zeros to the given width. -/
def padLeft
    (width : Nat)
    (digits : Text) :
    Text :=
  List.replicate (width - digits.length) '0' ++ digits

end LineTally.Decimal
