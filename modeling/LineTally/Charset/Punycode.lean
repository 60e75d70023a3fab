import LineTally.Number.Decimal
import LineTally.Text.Quoted

namespace LineTally

/-!
# Punycode

A text is written with ASCII alone: its ASCII characters, and after a hyphen the
numbers that tell where the other characters go, in ascending order of the
characters.  A number is written with digits of base 36; the weight of a digit
depends on the thresholds of the digits before it, and the thresholds depend on
the numbers before.
-/

/-- Why a text is not read as Punycode. -/
inductive PunycodeFault where
  /-- The last number breaks off. -/
  | incomplete
  /-- A character is no digit. -/
  | notDigit (c : Char)
  /-- A number leads beyond the last character. -/
  | beyondLast (code : Nat)
  deriving Repr, DecidableEq

namespace Punycode

/-- The threshold of a digit. -/
def threshold
    (place bias : Nat) :
    Nat :=
  max 1 (min 26 (36 * (place + 1) - bias))

/-- A number and how often it was divided until it was small enough. -/
def divided
    (delta : Nat) :
    Nat × Nat :=
  if 455 < delta then
    let (small, times) := divided (delta / 35)
    (small, times + 1)
  else
    (delta, 0)
  termination_by delta
  decreasing_by omega

/-- The bias after a number, given how many characters there are then. -/
def adapt
    (delta : Nat)
    (isFirst : Bool)
    (count : Nat) :
    Nat :=
  let damped := if isFirst then delta / 700 else delta / 2
  let (small, times) := divided (damped + damped / count)
  36 * times + 36 * small / (small + 38)

/-- The value of a digit, in which case does not matter. -/
def digit?
    (c : Char) :
    Option Nat :=
  if c.isAlpha then
    some (c.toUpper.toNat - 'A'.toNat)
  else if c.isDigit then
    some (26 + (c.toNat - '0'.toNat))
  else
    none

/-- The digit with a value. -/
def digitChar
    (value : Nat) :
    Char :=
  if value < 26 then Char.ofNat ('a'.toNat + value) else Char.ofNat ('0'.toNat + (value - 26))

/-- What has been read so far, and the part of a number that has been read. -/
structure State where
  /-- The codes so far, which may be of halves of characters. -/
  codes : List Nat
  code : Nat := 0x80
  /-- Where a character with the number 0 goes. -/
  next : Nat := 0
  bias : Nat := 72
  isFirst : Bool := true
  digits : Nat := 0
  weight : Nat := 1
  sum : Nat := 0
  deriving Repr, DecidableEq

namespace State

/-- The state after a whole number; only the strict reader minds one that leads too far. -/
def insert
    (state : State)
    (isStrict : Bool)
    (delta : Nat) :
    Except PunycodeFault State :=
  let size := state.codes.length + 1
  let place := (state.next + delta) % size
  let code := state.code + (state.next + delta) / size
  if 0x10FFFF < code && isStrict then
    .error (.beyondLast code)
  else
    let code := if 0x10FFFF < code then '?'.toNat else code
    .ok
      { codes := state.codes.insertIdx place code
        code := code
        next := place + 1
        bias := adapt delta state.isFirst size
        isFirst := false }

/-- The state after one more digit. -/
def step
    (state : State)
    (isStrict : Bool)
    (c : Char) :
    Except PunycodeFault State :=
  match digit? c with
  | none => .error (.notDigit c.toUpper)
  | some value =>
      let limit := threshold state.digits state.bias
      let sum := state.sum + value * state.weight
      if value < limit then
        state.insert isStrict sum
      else
        .ok
          { state with
            digits := state.digits + 1
            weight := state.weight * (36 - limit)
            sum := sum }

end State

/-- The codes after some more digits, or up to the first fault, and that fault. -/
def readFrom
    (isStrict : Bool)
    (state : State) :
    Text → List Nat × Option PunycodeFault
  | [] => (state.codes, if state.digits = 0 then none else some .incomplete)
  | c :: rest =>
      match state.step isStrict c with
      | .ok state => readFrom isStrict state rest
      | .error fault => (state.codes, some fault)

/-- The codes of some ASCII characters, with other codes where some digits tell. -/
def read
    (isStrict : Bool)
    (base digits : Text) :
    Except PunycodeFault (List Nat) :=
  match readFrom isStrict { codes := base.map Char.toNat } digits with
  | (codes, none) => .ok codes
  | (codes, some fault) => if isStrict then .error fault else .ok codes

/-- The digits of a number from one place on, as many as it has if the fuel allows. -/
def digitsOf
    (bias : Nat) :
    Nat → Nat → Nat → Text
  | 0, _, _ => []
  | fuel + 1, place, n =>
      let limit := threshold place bias
      if n < limit then
        [digitChar n]
      else
        digitChar (limit + (n - limit) % (36 - limit))
          :: digitsOf bias fuel (place + 1) ((n - limit) / (36 - limit))

/-- What has been written so far, and the number that is to be written next. -/
structure Output where
  digits : Text := []
  delta : Nat := 0
  bias : Nat := 72
  isFirst : Bool := true
  /-- How many characters have been written. -/
  count : Nat
  deriving Repr, DecidableEq

namespace Output

/-- The output when all characters below a code are written, at a character of the text. -/
def step
    (code : Nat)
    (output : Output)
    (c : Char) :
    Output :=
  if c.toNat < code then
    { output with delta := output.delta + 1 }
  else if c.toNat = code then
    { digits := output.digits ++ digitsOf output.bias (output.delta + 1) 0 output.delta
      delta := 0
      bias := adapt output.delta output.isFirst (output.count + 1)
      isFirst := false
      count := output.count + 1 }
  else
    output

end Output

/-- The output for some codes in ascending order, given the one that was reached. -/
def writeCodes
    (text : Text) :
    Nat → Output → List Nat → Output
  | _, output, [] => output
  | reached, output, code :: rest =>
      let start := { output with delta := output.delta + (code - reached) * (output.count + 1) }
      let after := text.foldl (Output.step code) start
      writeCodes text (code + 1) { after with delta := after.delta + 1 } rest

/-- The text written with ASCII alone. -/
def write
    (text : Text) :
    Text :=
  let base := text.filter fun c => c.toNat < 0x80
  let others := (text.map Char.toNat).filter fun code => 0x80 ≤ code
  let codes := (others.mergeSort fun a b => a ≤ b).eraseDups
  let output := writeCodes text 0x80 { count := base.length } codes
  if base.isEmpty then output.digits else base ++ '-' :: output.digits

end Punycode

namespace PunycodeFault

/-- The hexadecimal digits of a number. -/
def codeText
    (code : Nat) :
    Text :=
  (Text.hexDigits (code.log2 / 4 + 1) code)

/-- What the message says. -/
def message :
    PunycodeFault → Text
  | .incomplete => "incomplete punicode string".toList
  | .notDigit c => "Invalid extended code point '".toList ++ [c, '\'']
  | .beyondLast code => "Invalid character U+".toList ++ codeText code

end PunycodeFault

end LineTally
