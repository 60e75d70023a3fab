import LineTally.Charset.WideUnits

namespace LineTally

/-!
# Bytes as a charset reads them

A charset reads bytes as parts: texts, halves of characters, and stray bytes with
the place where they start.  Two halves that belong together and come to stand
side by side are one character.
-/

/-- A part of what is read: a text, half a character, or stray bytes at a place. -/
inductive Reading.Part where
  | text (chars : Text)
  | half (unit : Nat)
  | stray (start : Nat) (bytes : List UInt8) (reason : Text)
  deriving Repr, DecidableEq

/-- Bytes as a charset reads them. -/
structure Reading where
  /-- The name of the charset in messages. -/
  codec : Text
  parts : List Reading.Part
  deriving Repr, DecidableEq

namespace Reading

/-- The parts that some pieces are, the first of which starts at the given byte. -/
def partsOf
    (start : Nat) :
    List Piece → List Part
  | [] => []
  | .text chars bytes :: rest => .text chars :: partsOf (start + bytes.length) rest
  | .halves units bytes :: rest => units.map .half ++ partsOf (start + bytes.length) rest
  | .stray bytes reason :: rest =>
      .stray start bytes reason :: partsOf (start + bytes.length) rest

/-- The reading with some pieces, the first of which starts at the given byte. -/
def ofPieces
    (codec : Text)
    (start : Nat)
    (pieces : List Piece) :
    Reading :=
  ⟨codec, partsOf start pieces⟩

/-- The text of some parts; the replacement character stands for what is none. -/
def textOf :
    List Part → Text
  | [] => []
  | .text chars :: rest => chars ++ textOf rest
  | .half first :: .half second :: rest =>
      if Utf16.isHigh first && Utf16.isLow second then
        Utf16.joined first second :: textOf rest
      else
        Text.replacement :: textOf (.half second :: rest)
  | _ :: rest => Text.replacement :: textOf rest

/-- The part that a code is, which may be of half a character. -/
def partOfCode
    (code : Nat) :
    Part :=
  match Text.charOfCode? code with
  | some c => .text [c]
  | none => .half code

end Reading

end LineTally
