import LineTally.Charset.Piece

namespace LineTally

/-!
# UTF-8

Writing a text as UTF-8, and cutting bytes into pieces.  A run of stray bytes is
as long as it could still have started a character: a byte that starts none
stands alone, and a character that breaks off takes the bytes up to the one that
does not fit.
-/

namespace Utf8

/-- A byte of the given value. -/
def byte
    (value : Nat) :
    UInt8 :=
  UInt8.ofNat value

/-- A byte that continues a character and holds the last six bits of a number. -/
def continuation
    (code : Nat) :
    UInt8 :=
  byte (0x80 + code % 0x40)

/-- The bytes of one character. -/
def encodeChar
    (c : Char) :
    List UInt8 :=
  let code := c.toNat
  if code < 0x80 then
    [byte code]
  else if code < 0x800 then
    [byte (0xC0 + code / 0x40), continuation code]
  else if code < 0x10000 then
    [byte (0xE0 + code / 0x1000), continuation (code / 0x40), continuation code]
  else
    [byte (0xF0 + code / 0x40000), continuation (code / 0x1000),
      continuation (code / 0x40), continuation code]

/-- The bytes of a text. -/
def encode
    (text : Text) :
    List UInt8 :=
  text.flatMap encodeChar

/-- How many bytes a text takes. -/
def size
    (text : Text) :
    Nat :=
  (encode text).length

/-- Whether a byte continues a character. -/
def isContinuation
    (b : UInt8) :
    Bool :=
  0x80 ≤ b && b < 0xC0

/-- How many bytes a character has that starts with the given byte, if one can. -/
def sizeFrom?
    (first : UInt8) :
    Option Nat :=
  if first < 0x80 then
    some 1
  else if first < 0xC2 then
    none
  else if first < 0xE0 then
    some 2
  else if first < 0xF0 then
    some 3
  else if first < 0xF5 then
    some 4
  else
    none

/-- Whether the second byte of a character fits to the first. -/
def fitsSecond
    (first second : UInt8) :
    Bool :=
  isContinuation second
    && !(first = 0xE0 && second < 0xA0)
    && !(first = 0xED && 0xA0 ≤ second)
    && !(first = 0xF0 && second < 0x90)
    && !(first = 0xF4 && 0x90 ≤ second)

/-- The number in the bits of a continuation byte. -/
def payload
    (b : UInt8) :
    Nat :=
  b.toNat % 0x40

/-- The reason for a byte that starts no character. -/
def badStart : Text := "invalid start byte".toList

/-- The reason for a character that is broken off by another byte. -/
def badContinuation : Text := "invalid continuation byte".toList

/-- The reason for a character that is broken off by the end. -/
def cutShort : Text := "unexpected end of data".toList

/-- The piece that starts with a byte. -/
def firstPiece
    (a : UInt8)
    (rest : List UInt8) :
    Piece :=
  match sizeFrom? a, rest with
  | none, _ => .stray [a] badStart
  | some 1, _ => .char (Char.ofNat a.toNat) [a]
  | some _, [] => .stray [a] cutShort
  | some size, b :: rest =>
      if !fitsSecond a b then
        .stray [a] badContinuation
      else if size = 2 then
        .char (Char.ofNat ((a.toNat - 0xC0) * 0x40 + payload b)) [a, b]
      else
        match rest with
        | [] => .stray [a, b] cutShort
        | c :: rest =>
            if !isContinuation c then
              .stray [a, b] badContinuation
            else if size = 3 then
              .char
                (Char.ofNat (((a.toNat - 0xE0) * 0x40 + payload b) * 0x40 + payload c))
                [a, b, c]
            else
              match rest with
              | [] => .stray [a, b, c] cutShort
              | d :: _ =>
                  if !isContinuation d then
                    .stray [a, b, c] badContinuation
                  else
                    .char
                      (Char.ofNat
                        ((((a.toNat - 0xF0) * 0x40 + payload b) * 0x40 + payload c) * 0x40
                          + payload d))
                      [a, b, c, d]

/-- The pieces of some bytes, in their order. -/
def pieces
    (bytes : List UInt8) :
    List Piece :=
  Piece.cut firstPiece bytes

/--
The piece that starts with a byte, if halves of characters are encoded like
characters.
-/
def firstPassing
    (a : UInt8)
    (rest : List UInt8) :
    Piece :=
  match rest with
  | b :: c :: _ =>
      if a = 0xED && 0xA0 ≤ b && isContinuation b && isContinuation c then
        .halves [(0xD * 0x40 + payload b) * 0x40 + payload c] [a, b, c]
      else
        firstPiece a rest
  | _ => firstPiece a rest

end Utf8

end LineTally
