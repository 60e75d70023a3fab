import LineTally.Text.Basic

namespace LineTally

/-!
# Pieces of encoded text

Decoding cuts bytes into pieces.  A piece is either some text, nearly always one
character, with the bytes that encode it, or halves of characters, or a run of
stray bytes that encode none.  A charset says which piece starts with a byte; the rest of the bytes are
cut after that piece.
-/

/-- A part of encoded text: a text with its bytes, or bytes that stand for none. -/
inductive Piece where
  | text (chars : Text) (bytes : List UInt8)
  /-- Units of surrogate pairs, each of which stands on its own. -/
  | halves (units : List Nat) (bytes : List UInt8)
  | stray (bytes : List UInt8) (reason : Text)
  deriving Repr, DecidableEq

namespace Piece

/-- One character with its bytes. -/
@[match_pattern]
abbrev char
    (c : Char)
    (bytes : List UInt8) :
    Piece :=
  .text [c] bytes

/-- Bytes that only steer the reading of others. -/
abbrev silent
    (bytes : List UInt8) :
    Piece :=
  .text [] bytes

/-- The bytes of a piece. -/
def bytes :
    Piece → List UInt8
  | .text _ bytes => bytes
  | .halves _ bytes => bytes
  | .stray bytes _ => bytes

/-- The text of a piece, if it has one. -/
def text? :
    Piece → Option Text
  | .text chars _ => some chars
  | .halves _ _ | .stray _ _ => none

/-- The pieces of some bytes, of which the first few belong to the piece before. -/
def cutAfter
    (first : UInt8 → List UInt8 → Piece) :
    Nat → List UInt8 → List Piece
  | _, [] => []
  | skipped + 1, _ :: rest => cutAfter first skipped rest
  | 0, a :: rest =>
      let piece := first a rest
      piece :: cutAfter first (piece.bytes.length - 1) rest

/-- The pieces of some bytes, given the piece that starts with a byte. -/
def cut
    (first : UInt8 → List UInt8 → Piece)
    (bytes : List UInt8) :
    List Piece :=
  cutAfter first 0 bytes

/--
The pieces of some bytes, of which the first few belong to the piece before, where
the pieces depend on a mode that earlier ones have set.
-/
def cutModesAfter
    {μ : Type}
    (first : μ → UInt8 → List UInt8 → Piece × μ)
    (mode : μ) :
    Nat → List UInt8 → List Piece
  | _, [] => []
  | skipped + 1, _ :: rest => cutModesAfter first mode skipped rest
  | 0, a :: rest =>
      let (piece, mode) := first mode a rest
      piece :: cutModesAfter first mode (piece.bytes.length - 1) rest

/-- The pieces of some bytes, given the piece that starts with a byte in a mode. -/
def cutModes
    {μ : Type}
    (first : μ → UInt8 → List UInt8 → Piece × μ)
    (mode : μ)
    (bytes : List UInt8) :
    List Piece :=
  cutModesAfter first mode 0 bytes

/-- The unit that a byte from 128 on is kept as, half of a character. -/
def keptUnit
    (b : UInt8) :
    Nat :=
  0xDC00 + b.toNat

/--
The piece that starts with a byte, where stray bytes from 128 on are kept, up to
four at a time.
-/
def keeping
    (first : UInt8 → List UInt8 → Piece)
    (a : UInt8)
    (rest : List UInt8) :
    Piece :=
  match first a rest with
  | .stray bytes reason =>
      let kept := (bytes.take 4).takeWhile (0x80 ≤ ·)
      if kept.isEmpty then .stray bytes reason else .halves (kept.map keptUnit) kept
  | piece => piece

/-- The reason for bytes that stand for nothing in a charset of several bytes a character. -/
def illegal : Text := "illegal multibyte sequence".toList

/-- The reason for bytes at the end that more would have to follow. -/
def incomplete : Text := "incomplete multibyte sequence".toList

/-- The piece of two bytes, given what the second one stands for after the first. -/
def ofTwo
    (found? : UInt8 → Option Text)
    (a : UInt8) :
    List UInt8 → Piece
  | [] => .stray [a] incomplete
  | b :: _ =>
      match found? b with
      | some chars => .text chars [a, b]
      | none => .stray [a] illegal

/-- The piece of three bytes, given what the second and third stand for after the first. -/
def ofThree
    (found? : UInt8 → UInt8 → Option Text)
    (a : UInt8) :
    List UInt8 → Piece
  | b :: c :: _ =>
      match found? b c with
      | some chars => .text chars [a, b, c]
      | none => .stray [a] illegal
  | few => .stray (a :: few) incomplete

end Piece

end LineTally
