import LineTally.Charset.Grid.Gb2312
import LineTally.Charset.Piece

namespace LineTally.Hz

/-!
# Chinese text marked by tildes

ASCII text in which a tilde and a brace switch to the Chinese grid and back.  In
ASCII two tildes stand for one, and a tilde at the end of a line joins it to the
next.
-/

/-- Which characters bytes stand for. -/
inductive Mode where
  | ascii
  | grid
  deriving Repr, DecidableEq

/-- What a tilde and the byte after it do, if they belong together. -/
def escape?
    (mode : Mode)
    (b : UInt8) :
    Option (Text × Mode) :=
  match mode with
  | .ascii =>
      if b = 0x7E then
        some (['~'], .ascii)
      else if b = 0x7B then
        some ([], .grid)
      else if b = 0x0A then
        some ([], .ascii)
      else
        none
  | .grid => if b = 0x7D then some ([], .ascii) else none

/-- The piece that starts with a byte, and the mode after it. -/
def firstPiece
    (mode : Mode)
    (a : UInt8)
    (rest : List UInt8) :
    Piece × Mode :=
  if a = 0x7E then
    match rest with
    | [] => (.stray [a] Piece.incomplete, mode)
    | b :: _ =>
        match escape? mode b with
        | some (chars, next) => (.text chars [a, b], next)
        | none => (.stray [a] Piece.illegal, mode)
  else if 0x80 ≤ a then
    (.stray [a] Piece.illegal, mode)
  else
    match mode, rest with
    | .ascii, _ => (.char (Char.ofNat a.toNat) [a], mode)
    | .grid, [] => (.stray [a] Piece.incomplete, mode)
    | .grid, b :: _ =>
        match Charset.Grid.cell? Charset.Grid.gb2312Rows a b with
        | some c => (.char c [a, b], mode)
        | none => (.stray [a] Piece.illegal, mode)

/-- The pieces of some bytes, in their order. -/
def pieces
    (bytes : List UInt8) :
    List Piece :=
  Piece.cutModes firstPiece .ascii bytes

end LineTally.Hz
