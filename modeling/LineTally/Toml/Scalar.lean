import LineTally.Number.Limit
import LineTally.Toml.Text
import LineTally.Value.Basic

namespace LineTally.Toml

/-!
# Numbers, dates and times of TOML

Each reader takes the longest text of its form; what follows it is for others to
judge.  A date that is not in the calendar is refused.  A whole number in base ten
may have the right form and yet too many digits to be read.
-/

/-- The digits of a number after its first one, with single underscores between them. -/
def moreDigits
    (isDigit : Char → Bool) :
    Text → Text × Text
  | '_' :: c :: rest =>
      if isDigit c then
        let (digits, rest) := moreDigits isDigit rest
        (c :: digits, rest)
      else
        ([], '_' :: c :: rest)
  | c :: rest =>
      if isDigit c then
        let (digits, rest) := moreDigits isDigit rest
        (c :: digits, rest)
      else
        ([], c :: rest)
  | [] => ([], [])

/-- A run of digits with single underscores between them; there is one digit at least. -/
def digits?
    (isDigit : Char → Bool) :
    Text → Option (Text × Text)
  | [] => none
  | c :: rest =>
      if isDigit c then
        let (digits, rest) := moreDigits isDigit rest
        some (c :: digits, rest)
      else
        none

/-- A sign, if one comes next: whether it is a minus, and the rest. -/
def readSign :
    Text → Bool × Text
  | '-' :: rest => (true, rest)
  | '+' :: rest => (false, rest)
  | text => (false, text)

/-- A whole number in a base other than ten, after its mark. -/
def based?
    (base : Nat)
    (text : Text) :
    Option (Value × Text) := do
  let isDigit (c : Char) : Bool :=
    match Text.hexValue? c with
    | some value => value < base
    | none => false
  let (digits, rest) ← digits? isDigit text
  let values ← digits.mapM Text.hexValue?
  some (.integer (Decimal.valueIn base values), rest)

/-- The digits after a point, if a point and a digit come next. -/
def fraction? :
    Text → Option (Text × Text)
  | '.' :: rest => digits? Char.isDigit rest
  | _ => none

/-- The power of ten of an exponent, if one comes next. -/
def exponent? :
    Text → Option (Int × Text)
  | c :: rest => do
      if c ≠ 'e' && c ≠ 'E' then
        none
      let (negative, rest) := readSign rest
      let (digits, rest) ← digits? Char.isDigit rest
      let value : Int := Decimal.valueOf digits
      some (if negative then -value else value, rest)
  | [] => none

/-- A scalar whose form is right, if its value can be told. -/
abbrev Scalar := Except NumberFault Value

/-- The whole number with the given digits, unless there are too many of them. -/
def wholeNumber
    (negative : Bool)
    (digits : Text) :
    Scalar :=
  if Decimal.maxDigits < digits.length then
    .error (.read digits.length)
  else
    let value : Int := Decimal.valueOf digits
    .ok (.integer (if negative then -value else value))

/-- A number in base ten, whole unless it has a fraction or an exponent. -/
def decimal?
    (text : Text) :
    Option (Scalar × Text) := do
  let (negative, unsigned) := readSign text
  let (whole, rest) ←
    match unsigned with
    | '0' :: rest => some (['0'], rest)
    | _ => digits? Char.isDigit unsigned
  let (fraction, rest) := (fraction? rest).getD ([], rest)
  let scaled := exponent? rest
  let (power, rest) := scaled.getD (0, rest)
  if fraction.isEmpty && scaled.isNone then
    some (wholeNumber negative whole, rest)
  else
    let digits := Decimal.valueOf (whole ++ fraction)
    some (.ok (.real (.ofDecimal negative digits (power - fraction.length))), rest)

/-- A scalar whose value can always be told. -/
def told
    (read : Value × Text) :
    Scalar × Text :=
  (.ok read.1, read.2)

/-- A number of any form, if one comes next. -/
def number?
    (text : Text) :
    Option (Scalar × Text) :=
  let inBase :=
    match text with
    | '0' :: 'x' :: rest => based? 16 rest
    | '0' :: 'o' :: rest => based? 8 rest
    | '0' :: 'b' :: rest => based? 2 rest
    | _ => none
  (inBase.map told).or (decimal? text)

/-- An infinity or a value that is no number, if one comes next. -/
def special?
    (text : Text) :
    Option (Value × Text) :=
  let (negative, unsigned) := readSign text
  match unsigned with
  | 'i' :: 'n' :: 'f' :: rest => some (.real (.infinite negative), rest)
  | 'n' :: 'a' :: 'n' :: rest => some (.real .nan, rest)
  | _ => none

/-- Exactly two digits whose number lies within bounds. -/
def twoDigits?
    (low high : Nat) :
    Text → Option (Nat × Text)
  | a :: b :: rest =>
      let value := Decimal.valueOf [a, b]
      if a.isDigit && b.isDigit && low ≤ value && value ≤ high then
        some (value, rest)
      else
        none
  | _ => none

/-- The text after a given character, if it comes next. -/
def expect?
    (c : Char) :
    Text → Option Text
  | first :: rest => if first = c then some rest else none
  | [] => none

/-- A number as two digits. -/
def twoText
    (value : Nat) :
    Text :=
  Decimal.padLeft 2 (Decimal.ofNat value)

/-- The digits after the point of a second, six of them, or nothing if they are zeros. -/
def microText
    (digits : Text) :
    Text :=
  let six := digits.take 6 ++ List.replicate (6 - digits.length) '0'
  if six.all (· = '0') then [] else '.' :: six

/-- A time of day in its normal notation. -/
def time?
    (text : Text) :
    Option (Text × Text) := do
  let (hour, rest) ← twoDigits? 0 23 text
  let rest ← expect? ':' rest
  let (minute, rest) ← twoDigits? 0 59 rest
  let rest ← expect? ':' rest
  let (second, rest) ← twoDigits? 0 59 rest
  let shown := twoText hour ++ ':' :: twoText minute ++ ':' :: twoText second
  match rest with
  | '.' :: c :: more =>
      if c.isDigit then
        let digits := (c :: more).takeWhile Char.isDigit
        some (shown ++ microText digits, (c :: more).dropWhile Char.isDigit)
      else
        some (shown, rest)
  | rest => some (shown, rest)

/-- How many days a month has. -/
def daysIn
    (year month : Nat) :
    Nat :=
  if month = 2 then
    if (year % 4 = 0 && year % 100 ≠ 0) || year % 400 = 0 then 29 else 28
  else if month = 4 || month = 6 || month = 9 || month = 11 then
    30
  else
    31

/-- A day of the calendar, as far as its notation goes. -/
structure Day where
  year : Nat
  month : Nat
  day : Nat
  deriving Repr, DecidableEq

namespace Day

/-- Whether the calendar has the day. -/
def isValid
    (day : Day) :
    Bool :=
  1 ≤ day.year && day.day ≤ daysIn day.year day.month

/-- A day in its normal notation. -/
def shown
    (day : Day) :
    Text :=
  Decimal.padLeft 4 (Decimal.ofNat day.year) ++ '-' :: twoText day.month
    ++ '-' :: twoText day.day

end Day

/-- The notation of a day, if one comes next. -/
def day? :
    Text → Option (Day × Text)
  | a :: b :: c :: d :: rest => do
      if !(a.isDigit && b.isDigit && c.isDigit && d.isDigit) then
        none
      let rest ← expect? '-' rest
      let (month, rest) ← twoDigits? 1 12 rest
      let rest ← expect? '-' rest
      let (day, rest) ← twoDigits? 1 31 rest
      some (⟨Decimal.valueOf [a, b, c, d], month, day⟩, rest)
  | _ => none

/-- An offset from universal time in its normal notation, if one comes next. -/
def offset?
    (text : Text) :
    Option (Text × Text) :=
  match text with
  | c :: rest =>
      if c = 'Z' || c = 'z' then
        some ("+00:00".toList, rest)
      else if c = '+' || c = '-' then do
        let (hour, rest) ← twoDigits? 0 23 rest
        let rest ← expect? ':' rest
        let (minute, rest) ← twoDigits? 0 59 rest
        let sign := if hour = 0 && minute = 0 then '+' else c
        some (sign :: twoText hour ++ ':' :: twoText minute, rest)
      else
        none
  | [] => none

/-- The time of day that belongs to a day before it, if one comes next. -/
def timeOfDay?
    (text : Text) :
    Option (Text × Text) :=
  match text with
  | c :: rest => if c = 'T' || c = 't' || c = ' ' then time? rest else none
  | [] => none

/-- Whether the notation of a day comes next. -/
def startsWithDay
    (text : Text) :
    Bool :=
  (day? text).isSome

/-- A day, with a time of day and an offset if they follow; days not in the calendar fail. -/
def moment?
    (text : Text) :
    Option (Value × Text) := do
  let (day, rest) ← day? text
  if !day.isValid then
    none
  match timeOfDay? rest with
  | none => some (.moment .date day.shown, rest)
  | some (time, rest) =>
      let shown := day.shown ++ 'T' :: time
      match offset? rest with
      | none => some (.moment .dateTime shown, rest)
      | some (offset, rest) => some (.moment .offsetDateTime (shown ++ offset), rest)

/-- A number, date, time or truth value, if one comes next. -/
def scalar?
    (text : Text) :
    Option (Scalar × Text) :=
  match text with
  | 't' :: 'r' :: 'u' :: 'e' :: rest => some (told (.bool true, rest))
  | 'f' :: 'a' :: 'l' :: 's' :: 'e' :: rest => some (told (.bool false, rest))
  | text =>
      if startsWithDay text then
        (moment? text).map told
      else
        let time := (time? text).map fun read => told (Value.moment .time read.1, read.2)
        time.or ((number? text).or ((special? text).map told))

end LineTally.Toml
