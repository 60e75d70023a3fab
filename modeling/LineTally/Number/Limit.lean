import LineTally.Number.Decimal

namespace LineTally

/-!
# Limits of numbers

Whole numbers are exact at any size, but there are limits where they meet other
notations: a quotient has to lie among the finite doubles, and a decimal notation
has no more than 4300 digits, be it read or written.
-/

/-- How many digits the decimal notation of a number may have. -/
def Decimal.maxDigits : Nat := 4300

/-- The least number whose decimal notation has too many digits. -/
def Decimal.bound : Nat := Nat.pow 10 Decimal.maxDigits

/-- Whether the decimal notation of a number may be written. -/
def Decimal.isWritable
    (value : Int) :
    Bool :=
  value.natAbs < Decimal.bound

/-- A number lies beyond a limit. -/
inductive NumberFault where
  /-- The exact quotient of two whole numbers lies beyond the finite doubles. -/
  | quotient
  /-- A whole number has too many digits to be written. -/
  | written
  /-- A decimal notation has too many digits to be read. -/
  | read (digits : Nat)
  deriving Repr, DecidableEq

namespace NumberFault

/-- What the messages about too many digits start with. -/
def limitText : Text :=
  "Exceeds the limit (".toList ++ Decimal.ofNat Decimal.maxDigits
    ++ " digits) for integer string conversion".toList

/-- How to get around the limit of digits, as the messages about it say. -/
def adviceText : Text :=
  "; use sys.set_int_max_str_digits() to increase the limit".toList

/-- What the message says. -/
def message :
    NumberFault → Text
  | .quotient => "integer division result too large for a float".toList
  | .written => limitText ++ adviceText
  | .read digits =>
      limitText ++ ": value has ".toList ++ Decimal.ofNat digits ++ " digits".toList ++ adviceText

end NumberFault

end LineTally
