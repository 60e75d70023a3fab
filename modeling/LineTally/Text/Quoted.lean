import LineTally.Text.Hexadecimal
import LineTally.Text.Printable

namespace LineTally.Text

/-!
# Quoted text

A text is quoted in messages between single quotes, or between double quotes if
it holds a single quote and no double one.  The quote in use and the backslash
are written after a backslash, and a character that is not printable is
written by its code point.
-/

/-- A character by its code point, in the shortest of the three escape forms. -/
def escapeCode
    (c : Char) :
    Text :=
  if c.toNat < 0x100 then
    '\\' :: 'x' :: hexDigits 2 c.toNat
  else if c.toNat < 0x10000 then
    '\\' :: 'u' :: hexDigits 4 c.toNat
  else
    '\\' :: 'U' :: hexDigits 8 c.toNat

/-- How a character is written between the given quotes. -/
def quoteChar
    (quote c : Char) :
    Text :=
  if c = quote || c = '\\' then
    ['\\', c]
  else if c = '\t' then
    ['\\', 't']
  else if c = '\n' then
    ['\\', 'n']
  else if c = '\r' then
    ['\\', 'r']
  else if isPrintable c then
    [c]
  else
    escapeCode c

/-- The text between quotes, on one line of printable characters. -/
def quoted
    (text : Text) :
    Text :=
  let quote := if text.any (· = '\'') && !text.any (· = '"') then '"' else '\''
  quote :: text.flatMap (quoteChar quote) ++ [quote]

end LineTally.Text
