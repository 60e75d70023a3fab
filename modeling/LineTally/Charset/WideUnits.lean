import LineTally.Charset.Piece

namespace LineTally

/-!
# Charsets with units of two and four bytes

A unit is read with its high byte last or first.  With two bytes a unit, a
character beyond the first 65536 is a pair of surrogates; with four bytes a unit
is the code point itself.
-/

/-- The order of the bytes of a unit. -/
inductive ByteOrder where
  | lowFirst
  | highFirst
  deriving Repr, DecidableEq

namespace ByteOrder

/-- The number that some bytes stand for, in this order. -/
def number
    (order : ByteOrder)
    (bytes : List UInt8) :
    Nat :=
  let highFirst :=
    match order with
    | .lowFirst => bytes.reverse
    | .highFirst => bytes
  highFirst.foldl (fun value b => value * 0x100 + b.toNat) 0

end ByteOrder

namespace Utf16

/-- Whether a unit is the first of a surrogate pair. -/
def isHigh
    (unit : Nat) :
    Bool :=
  0xD800 ≤ unit && unit < 0xDC00

/-- Whether a unit is the second of a surrogate pair. -/
def isLow
    (unit : Nat) :
    Bool :=
  0xDC00 ≤ unit && unit < 0xE000

/-- The character of a surrogate pair. -/
def joined
    (high low : Nat) :
    Char :=
  Char.ofNat (0x10000 + (high - 0xD800) * 0x400 + (low - 0xDC00))

/-- The piece that starts with a byte. -/
def firstPiece
    (order : ByteOrder)
    (a : UInt8)
    (rest : List UInt8) :
    Piece :=
  match rest with
  | [] => .stray [a] "truncated data".toList
  | b :: rest =>
      let unit := order.number [a, b]
      if isLow unit then
        .stray [a, b] "illegal encoding".toList
      else if isHigh unit then
        match rest with
        | c :: d :: _ =>
            let next := order.number [c, d]
            if isLow next then
              .char (joined unit next) [a, b, c, d]
            else
              .stray [a, b] "illegal UTF-16 surrogate".toList
        | few => .stray (a :: b :: few) "unexpected end of data".toList
      else
        .char (Char.ofNat unit) [a, b]

/-- The piece that starts with a byte, if a half without the other is no fault. -/
def firstPassing
    (order : ByteOrder)
    (a : UInt8)
    (rest : List UInt8) :
    Piece :=
  match firstPiece order a rest, rest with
  | .stray _ _, b :: _ => .halves [order.number [a, b]] [a, b]
  | piece, _ => piece

end Utf16

namespace Utf32

/-- The piece that starts with a byte. -/
def firstPiece
    (order : ByteOrder)
    (a : UInt8)
    (rest : List UInt8) :
    Piece :=
  match rest with
  | b :: c :: d :: _ =>
      let code := order.number [a, b, c, d]
      if 0x110000 ≤ code then
        .stray [a, b, c, d] "code point not in range(0x110000)".toList
      else if 0xD800 ≤ code && code < 0xE000 then
        .stray [a, b, c, d]
          "code point in surrogate code point range(0xd800, 0xe000)".toList
      else
        .char (Char.ofNat code) [a, b, c, d]
  | few => .stray (a :: few) "truncated data".toList

/-- The piece that starts with a byte, if a half without the other is no fault. -/
def firstPassing
    (order : ByteOrder)
    (a : UInt8)
    (rest : List UInt8) :
    Piece :=
  match firstPiece order a rest with
  | .stray bytes reason =>
      let code := order.number bytes
      if bytes.length = 4 && code < 0x110000 then .halves [code] bytes else .stray bytes reason
  | piece => piece

end Utf32

end LineTally
