import LineTally.Json.Basic
import LineTally.Number.Decimal
import LineTally.Text.Hexadecimal

namespace LineTally.Json

/-!
# Reading JSON

The reader takes the text of one value with blanks around and inside it.  Each
reader returns what it read and the text that remains.  A string is first read
as a list of code points and UTF-16 units, whose surrogate pairs are then
joined.
-/

/-- The text without the blanks that may stand between the parts of a document. -/
def skipBlanks :
    Text → Text
  | [] => []
  | c :: rest =>
      if c = ' ' || c = '\n' || c = '\r' || c = '\t' then skipBlanks rest else c :: rest

/-- The character that a backslash and one more character stand for. -/
def shortEscape? :
    Char → Option Char
  | '"' => some '"'
  | '\\' => some '\\'
  | '/' => some '/'
  | 'b' => some '\x08'
  | 'f' => some '\x0c'
  | 'n' => some '\n'
  | 'r' => some '\r'
  | 't' => some '\t'
  | _ => none

/-- The code points and units of a string up to its closing quote. -/
def readUnits? :
    Text → Option (List Nat × Text)
  | '"' :: rest => some ([], rest)
  | '\\' :: 'u' :: a :: b :: c :: d :: rest => do
      let unit ← Text.hexNumber? [a, b, c, d]
      let (units, rest) ← readUnits? rest
      some (unit :: units, rest)
  | '\\' :: c :: rest => do
      let escaped ← shortEscape? c
      let (units, rest) ← readUnits? rest
      some (escaped.toNat :: units, rest)
  | c :: rest =>
      if c.toNat < 0x20 || c = '\\' then
        none
      else do
        let (units, rest) ← readUnits? rest
        some (c.toNat :: units, rest)
  | [] => none

/-- The text of some units, with each surrogate pair joined to one character. -/
def joinUnits? :
    List Nat → Option Text
  | [] => some []
  | high :: low :: rest =>
      if 0xD800 ≤ high && high < 0xDC00 && 0xDC00 ≤ low && low < 0xE000 then do
        let c ← Text.charOfCode? (0x10000 + (high - 0xD800) * 0x400 + (low - 0xDC00))
        let text ← joinUnits? rest
        some (c :: text)
      else do
        let c ← Text.charOfCode? high
        let text ← joinUnits? (low :: rest)
        some (c :: text)
  | [unit] => do
      let c ← Text.charOfCode? unit
      some [c]

/-- A string after its opening quote. -/
def readText?
    (text : Text) :
    Option (Text × Text) := do
  let (units, rest) ← readUnits? text
  let read ← joinUnits? units
  some (read, rest)

/-- The digits after a point, if a point with digits comes next. -/
def readFraction
    (text : Text) :
    Text × Text :=
  match text with
  | '.' :: rest =>
      let digits := rest.takeWhile Char.isDigit
      if digits.isEmpty then ([], text) else (digits, rest.dropWhile Char.isDigit)
  | _ => ([], text)

/-- A power of ten, if an exponent with digits comes next. -/
def readExponent?
    (text : Text) :
    Option (Int × Text) :=
  match text with
  | [] => none
  | c :: rest =>
      if c = 'e' || c = 'E' then
        let (negative, rest) :=
          match rest with
          | '-' :: rest => (true, rest)
          | '+' :: rest => (false, rest)
          | rest => (false, rest)
        let digits := rest.takeWhile Char.isDigit
        if digits.isEmpty then
          none
        else
          let value : Int := Decimal.valueOf digits
          some (if negative then -value else value, rest.dropWhile Char.isDigit)
      else
        none

/-- A number: whole if it has neither a point nor an exponent. -/
def readNumber?
    (text : Text) :
    Option (Json × Text) :=
  let (negative, unsigned) :=
    match text with
    | '-' :: rest => (true, rest)
    | text => (false, text)
  let whole := unsigned.takeWhile Char.isDigit
  let rest := unsigned.dropWhile Char.isDigit
  if whole.isEmpty then
    none
  else
    let (fraction, rest) := readFraction rest
    match readExponent? rest with
    | some (power, rest) =>
        let digits := Decimal.valueOf (whole ++ fraction)
        some (.real (.ofDecimal negative digits (power - fraction.length)), rest)
    | none =>
        if fraction.isEmpty then
          let value : Int := Decimal.valueOf whole
          some (.integer (if negative then -value else value), rest)
        else
          let digits := Decimal.valueOf (whole ++ fraction)
          some (.real (.ofDecimal negative digits (-(fraction.length : Int))), rest)

mutual

/-- A value, with as much nesting and as many items as the fuel allows. -/
def readValue? :
    Nat → Text → Option (Json × Text)
  | 0, _ => none
  | fuel + 1, text =>
      match text with
      | '"' :: rest => (readText? rest).map fun read => (.string read.1, read.2)
      | '[' :: rest =>
          match skipBlanks rest with
          | ']' :: rest => some (.array [], rest)
          | rest => (readItems? fuel rest).map fun read => (.array read.1, read.2)
      | '\x7b' :: rest =>
          match skipBlanks rest with
          | '\x7d' :: rest => some (.object [], rest)
          | rest => (readEntries? fuel rest).map fun read => (.object read.1, read.2)
      | 'n' :: 'u' :: 'l' :: 'l' :: rest => some (.null, rest)
      | 't' :: 'r' :: 'u' :: 'e' :: rest => some (.bool true, rest)
      | 'f' :: 'a' :: 'l' :: 's' :: 'e' :: rest => some (.bool false, rest)
      | text => readNumber? text

/-- The items of an array, of which there is one at least, and the closing bracket. -/
def readItems? :
    Nat → Text → Option (List Json × Text)
  | 0, _ => none
  | fuel + 1, text => do
      let (item, rest) ← readValue? fuel text
      match skipBlanks rest with
      | ']' :: rest => some ([item], rest)
      | ',' :: rest =>
          let (items, rest) ← readItems? fuel (skipBlanks rest)
          some (item :: items, rest)
      | _ => none

/-- The entries of an object, of which there is one at least, and the closing brace. -/
def readEntries? :
    Nat → Text → Option (List (Text × Json) × Text)
  | 0, _ => none
  | fuel + 1, text => do
      let (key, rest) ←
        match text with
        | '"' :: rest => readText? rest
        | _ => none
      let (value, rest) ←
        match skipBlanks rest with
        | ':' :: rest => readValue? fuel (skipBlanks rest)
        | _ => none
      match skipBlanks rest with
      | '\x7d' :: rest => some ([(key, value)], rest)
      | ',' :: rest =>
          let (entries, rest) ← readEntries? fuel (skipBlanks rest)
          some ((key, value) :: entries, rest)
      | _ => none

end

/-- The value that a whole text stands for. -/
def ofText?
    (text : Text) :
    Option Json :=
  match readValue? (2 * text.length + 2) (skipBlanks text) with
  | some (value, rest) => if (skipBlanks rest).isEmpty then some value else none
  | none => none

end LineTally.Json
