import LineTally.Value.Basic

namespace LineTally

/-!
# Samples of files

Whether a file is binary is seen from a sample of its first bytes.  How many bytes
that are is up to the caller, whose value for it may be none, or a number that no
sample has.
-/

/-- What is wrong with a value for the size of a sample. -/
inductive SampleFault where
  /-- It is no whole number. -/
  | notNumber (kind : Text)
  /-- It is negative, and not the one negative number that stands for the whole file. -/
  | negative
  /-- It is more than any index can be. -/
  | beyondIndex
  /-- It is more than a sample can have bytes. -/
  | beyondBytes
  /-- It is more than there is memory for. -/
  | beyondMemory
  deriving Repr, DecidableEq

namespace SampleFault

/-- What the message says. -/
def message :
    SampleFault → Text
  | .notNumber kind => "argument should be integer or None, not '".toList ++ kind ++ ['\'']
  | .negative => "read length must be non-negative or -1".toList
  | .beyondIndex => "cannot fit 'int' into an index-sized integer".toList
  | .beyondBytes => "byte string is too large".toList
  | .beyondMemory => []

end SampleFault

namespace Sample

/-- The greatest index. -/
def maxIndex : Int := Int.pow 2 63 - 1

/-- How many bytes besides its own a run of bytes takes. -/
def bytesOverhead : Int := 33

/-- How many bytes there is memory for. -/
def memory : Int := Int.pow 2 37

/-- How many bytes a sample has; it is the whole file if there is no number. -/
def sizeOf
    (size : Int) :
    Except SampleFault (Option Nat) :=
  if size < -maxIndex - 1 || maxIndex < size then
    .error .beyondIndex
  else if size = -1 then
    .ok none
  else if size < 0 then
    .error .negative
  else if maxIndex - bytesOverhead < size then
    .error .beyondBytes
  else if memory < size then
    .error .beyondMemory
  else
    .ok (some size.toNat)

/-- How many bytes a sample has whose size is given by a value. -/
def sizeOfValue :
    Value → Except SampleFault (Option Nat)
  | .absent => .ok none
  | .bool value => .ok (some value.toNat)
  | .integer value => sizeOf value
  | value => .error (.notNumber value.kind)

end Sample

end LineTally
