import LineTally.Charset.Reading
import LineTally.Charset.WideUnits

namespace LineTally.Utf7

/-!
# Text in seven bits

ASCII text in which a plus sign starts a run of digits of base 64 that hold
units of two bytes; the run ends with the first byte that is no such digit, which
is left out if it is a hyphen.  What is wrong with a run shows at its end, and
then the stray bytes are the whole run, although its text is kept.
-/

/-- The value of a digit of base 64. -/
def digit?
    (b : UInt8) :
    Option Nat :=
  if 0x41 ≤ b && b ≤ 0x5A then
    some (b.toNat - 0x41)
  else if 0x61 ≤ b && b ≤ 0x7A then
    some (b.toNat - 0x61 + 26)
  else if 0x30 ≤ b && b ≤ 0x39 then
    some (b.toNat - 0x30 + 52)
  else if b = 0x2B then
    some 62
  else if b = 0x2F then
    some 63
  else
    none

/-- A run of digits, as far as it has been read. -/
structure Run where
  /-- Where its plus sign is. -/
  start : Nat
  /-- Its bytes, with the plus sign. -/
  bytes : List UInt8
  /-- How many bits are left over. -/
  bits : Nat := 0
  /-- The number in the bits that are left over. -/
  value : Nat := 0
  /-- The first half of a pair whose second half is due. -/
  high : Option Nat := none
  deriving Repr, DecidableEq

namespace Run

/-- The run that a plus sign starts. -/
def ofStart
    (start : Nat) :
    Run :=
  { start := start, bytes := [0x2B] }

/-- Whether there is nothing but the plus sign yet. -/
def isFresh
    (run : Run) :
    Bool :=
  run.bytes.length = 1

/-- What a unit after the units before it stands for, and the first half of a pair it may be. -/
def unit
    (high : Option Nat)
    (value : Nat) :
    List Reading.Part × Option Nat :=
  let before := (high.map Reading.Part.half).toList
  if Utf16.isHigh value then
    (before, some value)
  else if Utf16.isLow value then
    (before ++ [.half value], none)
  else
    (before ++ [.text [Char.ofNat value]], none)

/-- The run with one more digit, and what the digit completes. -/
def push
    (run : Run)
    (b : UInt8)
    (digit : Nat) :
    List Reading.Part × Run :=
  let bits := run.bits + 6
  let value := run.value * 64 + digit
  let bytes := run.bytes ++ [b]
  if bits < 16 then
    ([], { run with bytes := bytes, bits := bits, value := value })
  else
    let left := bits - 16
    let (parts, high) := unit run.high (value / Nat.pow 2 left)
    (parts, { run with bytes := bytes, bits := left, value := value % Nat.pow 2 left, high := high })

/-- What is wrong with a run that another byte ends. -/
def endFault?
    (run : Run) :
    Option Text :=
  if 6 ≤ run.bits then
    some "partial character in shift sequence".toList
  else if run.value ≠ 0 then
    some "non-zero padding bits in shift sequence".toList
  else
    none

/-- Whether nothing is wrong with a run that the end of the bytes ends. -/
def mayEnd
    (run : Run) :
    Bool :=
  run.high.isNone && run.endFault?.isNone

end Run

/-- What a byte outside of runs stands for, and the run that it may start. -/
def plain
    (place : Nat)
    (b : UInt8) :
    List Reading.Part × Option Run :=
  if b = 0x2B then
    ([], some (.ofStart place))
  else if b < 0x80 then
    ([.text [Char.ofNat b.toNat]], none)
  else
    ([.stray place [b] "unexpected special character".toList], none)

/-- What a byte that is no digit stands for after a run. -/
def afterRun
    (run : Run)
    (place : Nat)
    (b : UInt8) :
    List Reading.Part × Option Run :=
  let stray reason := Reading.Part.stray run.start (run.bytes ++ [b]) reason
  if run.isFresh then
    if b = 0x2D then ([.text ['+']], none) else ([stray "ill-formed sequence".toList], none)
  else
    match run.endFault? with
    | some reason => ([stray reason], none)
    | none =>
        let half := if b < 0x80 then (run.high.map Reading.Part.half).toList else []
        if b = 0x2D then
          (half, none)
        else
          let (parts, next) := plain place b
          (half ++ parts, next)

/-- The parts from a place on, in a run or not. -/
def partsFrom
    (place : Nat) :
    Option Run → List UInt8 → List Reading.Part
  | none, [] => []
  | some run, [] =>
      if run.isFresh || run.mayEnd then
        []
      else
        [.stray run.start run.bytes "unterminated shift sequence".toList]
  | none, b :: rest =>
      let (parts, next) := plain place b
      parts ++ partsFrom (place + 1) next rest
  | some run, b :: rest =>
      match digit? b with
      | some digit =>
          let (parts, run) := run.push b digit
          parts ++ partsFrom (place + 1) (some run) rest
      | none =>
          let (parts, next) := afterRun run place b
          parts ++ partsFrom (place + 1) next rest

/-- How some bytes are read. -/
def reading
    (bytes : List UInt8) :
    Reading :=
  ⟨"utf7".toList, partsFrom 0 none bytes⟩

end LineTally.Utf7
