import LineTally.Json.Basic
import LineTally.Number.Shortest
import LineTally.Text.Quoted

namespace LineTally.Json

/-!
# Printing JSON

An array or object that is not empty is spread over lines, one item a line, two
columns further in than the line that it starts on.  The text is pure ASCII:
every other character, and every control character without a short form, is
written by its UTF-16 units.
-/

/-- One UTF-16 unit as an escape. -/
def escapeUnit
    (unit : Nat) :
    Text :=
  '\\' :: 'u' :: Text.hexDigits 4 unit

/-- A character as one escaped unit, or as a surrogate pair. -/
def escapeUnits
    (c : Char) :
    Text :=
  if c.toNat < 0x10000 then
    escapeUnit c.toNat
  else
    let offset := c.toNat - 0x10000
    escapeUnit (0xD800 + offset / 0x400) ++ escapeUnit (0xDC00 + offset % 0x400)

/-- How a character is written inside a string. -/
def printChar
    (c : Char) :
    Text :=
  if c = '"' || c = '\\' then
    ['\\', c]
  else if c = '\n' then
    ['\\', 'n']
  else if c = '\r' then
    ['\\', 'r']
  else if c = '\t' then
    ['\\', 't']
  else if c = '\x08' then
    ['\\', 'b']
  else if c = '\x0c' then
    ['\\', 'f']
  else if ' ' ≤ c && c ≤ '~' then
    [c]
  else
    escapeUnits c

/-- A string with its quotes. -/
def printText
    (text : Text) :
    Text :=
  '"' :: text.flatMap printChar ++ ['"']

/-- A line end, and the blanks at the start of a line at the given depth. -/
def newLine
    (depth : Nat) :
    Text :=
  '\n' :: List.replicate (2 * depth) ' '

mutual

/-- A value that starts on a line at the given depth. -/
def print
    (depth : Nat) :
    Json → Text
  | .null => "null".toList
  | .bool value => if value then "true".toList else "false".toList
  | .integer value => Decimal.ofInt value
  | .real value => value.toText
  | .string value => printText value
  | .array [] => "[]".toList
  | .array (item :: items) =>
      '[' :: newLine (depth + 1) ++ print (depth + 1) item
        ++ printItems (depth + 1) items ++ newLine depth ++ [']']
  | .object [] => ['\x7b', '\x7d']
  | .object ((key, value) :: entries) =>
      '\x7b' :: newLine (depth + 1) ++ printText key ++ ':' :: ' ' :: print (depth + 1) value
        ++ printEntries (depth + 1) entries ++ newLine depth ++ ['\x7d']

/-- The items of an array after the first. -/
def printItems
    (depth : Nat) :
    List Json → Text
  | [] => []
  | item :: items => ',' :: newLine depth ++ print depth item ++ printItems depth items

/-- The entries of an object after the first. -/
def printEntries
    (depth : Nat) :
    List (Text × Json) → Text
  | [] => []
  | (key, value) :: entries =>
      ',' :: newLine depth ++ printText key ++ ':' :: ' ' :: print depth value
        ++ printEntries depth entries

end

/-- The text of a document. -/
def toText
    (document : Json) :
    Text :=
  document.print 0

end LineTally.Json
