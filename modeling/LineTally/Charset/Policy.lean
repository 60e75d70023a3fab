import LineTally.Text.Basic

namespace LineTally

/-!
# Policies for stray bytes

A policy says what becomes of bytes that stand for no text.  It is given by its
name; a name that stands for none is no fault until there is a stray byte.
-/

/-- What becomes of stray bytes. -/
inductive StrayPolicy where
  /-- They are a fault. -/
  | strict
  /-- They are left out. -/
  | ignore
  /-- Each run is replaced by the replacement character. -/
  | replace
  /-- Each byte is written as a hexadecimal escape. -/
  | escape
  /-- Each byte from 128 on is kept as half a character, and any other is a fault. -/
  | keepHalves
  /-- Encoded halves of characters are kept, and anything else is a fault. -/
  | passHalves
  /-- A policy that is known, but for encoding only. -/
  | forEncoding (name : Text)
  /-- A policy that is not known, which comes to light with the first stray byte. -/
  | unknown (name : Text)
  deriving Repr, DecidableEq

namespace StrayPolicy

/-- The policies for decoding by their names. -/
def named : List (String × StrayPolicy) :=
  [ ("strict", .strict), ("ignore", .ignore), ("replace", .replace),
    ("backslashreplace", .escape), ("surrogateescape", .keepHalves),
    ("surrogatepass", .passHalves) ]

/-- The names of the policies for encoding only. -/
def encodingNames : List String :=
  ["xmlcharrefreplace", "namereplace"]

/-- The policy with a name. -/
def ofName
    (name : Text) :
    StrayPolicy :=
  match named.find? fun entry => entry.1.toList = name with
  | some entry => entry.2
  | none =>
      if encodingNames.any fun known => known.toList = name then
        .forEncoding name
      else
        .unknown name

/-- The name of a policy. -/
def name :
    StrayPolicy → Text
  | .strict => "strict".toList
  | .ignore => "ignore".toList
  | .replace => "replace".toList
  | .escape => "backslashreplace".toList
  | .keepHalves => "surrogateescape".toList
  | .passHalves => "surrogatepass".toList
  | .forEncoding name => name
  | .unknown name => name

end StrayPolicy

end LineTally
