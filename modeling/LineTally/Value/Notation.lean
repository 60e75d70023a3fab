import LineTally.Number.Shortest
import LineTally.Text.Quoted
import LineTally.Value.Basic

namespace LineTally

/-!
# The notation of values

How messages write a value of any kind, so that its kind can be told from the
notation.
-/

namespace Text

/-- A byte between the given quotes. -/
def quoteByte
    (quote : Char)
    (b : UInt8) :
    Text :=
  let c := Char.ofNat b.toNat
  if b < 0x80 && c ≠ '\x7f' then quoteChar quote c else '\\' :: 'x' :: hexDigits 2 b.toNat

/-- Bytes between quotes, where every byte that is no printable ASCII is escaped. -/
def quotedBytes
    (bytes : List UInt8) :
    Text :=
  let quote := if bytes.any (· = 0x27) && !bytes.any (· = 0x22) then '"' else '\''
  'b' :: quote :: bytes.flatMap (quoteByte quote) ++ [quote]

end Text

namespace Value

/-- Some notations with commas between them. -/
def listed
    (notations : List Text) :
    Text :=
  ", ".toList.intercalate notations

mutual

/-- The notation of a value. -/
def shown :
    Value → Text
  | .absent => "None".toList
  | .bool value => if value then "True".toList else "False".toList
  | .integer value => Decimal.ofInt value
  | .real value => value.toText
  | .string chars => chars.quoted
  | .bytes octets => Text.quotedBytes octets
  | .path location => "PosixPath(".toList ++ location.toText.quoted ++ [')']
  | .moment _ shown => shown
  | .list items => '[' :: listed (notations items) ++ [']']
  | .tuple [] => ['(', ')']
  | .tuple [item] => '(' :: item.shown ++ [',', ')']
  | .tuple items => '(' :: listed (notations items) ++ [')']
  | .set [] => "set()".toList
  | .set items => '\x7b' :: listed (notations items) ++ ['\x7d']
  | .table entries => '\x7b' :: listed (entryNotations entries) ++ ['\x7d']

/-- The notations of some values. -/
def notations :
    List Value → List Text
  | [] => []
  | item :: rest => item.shown :: notations rest

/-- The notations of some entries of a table. -/
def entryNotations :
    List (Text × Value) → List Text
  | [] => []
  | (key, value) :: rest =>
      (key.quoted ++ ':' :: ' ' :: value.shown) :: entryNotations rest

end

end Value

end LineTally
