import LineTally.Charset.Grid.Cp932
import LineTally.Charset.Iso2022

namespace LineTally.Japanese

/-!
# Japanese charsets

The cells of the Japanese grids are written in two ways.  One has the row and the cell in a
byte from 128 on each, after a shift byte in the second grid.  The other has two rows to a
first byte and spreads their cells over the second, so that the bytes of the katakana of half
the width are left free.
-/

open Charset

/-- The katakana of half the width that a byte stands for. -/
def katakana?
    (a : UInt8) :
    Option Char :=
  CodeSet.halfKatakana.single? (a - 0x80)

/-- The byte after which another one stands for katakana of half the width. -/
def katakanaShift : UInt8 := 0x8E

/-- The byte after which two others stand for a cell of the second grid. -/
def gridShift : UInt8 := 0x8F

/-- An edition of the extended set. -/
inductive Edition where
  | first
  | second
  deriving Repr, DecidableEq

namespace Edition

/-- Whether a cell of the first grid is missing in an edition. -/
def lacks
    (edition : Edition)
    (row cell : UInt8) :
    Bool :=
  match edition with
  | .first => Grid.jisX0213Late.contains (row, cell)
  | .second => false

/-- The text of a cell of the second grid, of which one differs between the editions. -/
def second?
    (edition : Edition)
    (row cell : UInt8) :
    Option Text :=
  if edition = .first && row = 0x7D && cell = 0x3B then
    some ['鬝']
  else
    CodeSet.secondJapanese.double? row cell

end Edition

/-- The text of a cell of the plain grid, whose reverse solidus is a wide one. -/
def plainCell?
    (row cell : UInt8) :
    Option Text :=
  if row = 0x21 && cell = 0x40 then some ['＼'] else CodeSet.japanese.double? row cell

/-- The text of a cell of the first grid, whose reverse solidus and tilde are wide ones. -/
def extendedCell?
    (row cell : UInt8) :
    Option Text :=
  if row = 0x21 && cell = 0x40 then
    some ['＼']
  else if row = 0x22 && cell = 0x32 then
    some ['～']
  else
    CodeSet.firstJapanese2004.double? row cell

/-- The text of a spread cell of the first grid, whose reverse solidus is that of ASCII. -/
def romanCell?
    (row cell : UInt8) :
    Option Text :=
  if row = 0x21 && cell = 0x40 then some ['\\'] else CodeSet.firstJapanese2004.double? row cell

/--
The piece that starts with a byte from 128 on where each byte has a row or a cell, given the
texts of a cell, and of a cell after the shift.
-/
def rowPiece
    (cell? : UInt8 → UInt8 → Option Text)
    (shifted? : UInt8 → UInt8 → Option Text)
    (a : UInt8)
    (rest : List UInt8) :
    Piece :=
  if a = katakanaShift then
    Piece.ofTwo (fun b => (katakana? b).map fun c => [c]) a rest
  else if a = gridShift then
    Piece.ofThree (fun b c => shifted? (b - 0x80) (c - 0x80)) a rest
  else
    Piece.ofTwo (fun b => cell? (a - 0x80) (b - 0x80)) a rest

/-- The piece of the plain charset of rows that starts with a byte from 128 on. -/
def plainRowPiece
    (a : UInt8)
    (rest : List UInt8) :
    Piece :=
  rowPiece plainCell? CodeSet.supplementaryJapanese.double? a rest

/-- The piece of two bytes that an edition may lack, or else the given one. -/
def unlessLacking
    (edition : Edition)
    (row cell : UInt8)
    (bytes : List UInt8)
    (piece : Piece) :
    Piece :=
  if edition.lacks row cell then .stray bytes Piece.illegal else piece

/-- The piece of the extended charset of rows that starts with a byte from 128 on. -/
def extendedRowPiece
    (edition : Edition)
    (a : UInt8)
    (rest : List UInt8) :
    Piece :=
  let shifted? (row cell : UInt8) : Option Text :=
    (edition.second? row cell).or (CodeSet.supplementaryJapanese.double? row cell)
  let piece := rowPiece extendedCell? shifted? a rest
  match rest with
  | b :: _ => unlessLacking edition (a - 0x80) (b - 0x80) [a, b] piece
  | [] => piece

/-- The row and the cell that two bytes are spread over, counted from zero. -/
def spread?
    (a b : UInt8) :
    Option (Nat × Nat) :=
  if (0x40 ≤ b && b ≤ 0x7E) || (0x80 ≤ b && b ≤ 0xFC) then
    let pair := if a < 0xE0 then a.toNat - 0x81 else a.toNat - 0xC1
    let place := if b < 0x80 then b.toNat - 0x40 else b.toNat - 0x41
    some (2 * pair + place / 94, place % 94)
  else
    none

/-- The row of the second grid that follows the rows of the first one by so many. -/
def secondRow
    (place : Nat) :
    Nat :=
  if 0x67 ≤ place then
    place + 0x07
  else if 0x63 ≤ place || place = 0x5F then
    place - 0x37
  else
    place - 0x3D

/-- Whether a byte starts a character of two bytes, of which the first ends at the given one. -/
def startsSpread
    (last a : UInt8) :
    Bool :=
  (0x81 ≤ a && a ≤ 0x9F) || (0xE0 ≤ a && a ≤ last)

/-- The text of two bytes in the plain grid. -/
def plainSpread?
    (a b : UInt8) :
    Option Text := do
  let (row, cell) ← spread? a b
  plainCell? (UInt8.ofNat (row + 0x21)) (UInt8.ofNat (cell + 0x21))

/-- The piece of the plain charset of spread cells that starts with a byte from 128 on. -/
def plainSpreadPiece
    (a : UInt8)
    (rest : List UInt8) :
    Piece :=
  match katakana? a with
  | some c => .char c [a]
  | none =>
      if startsSpread 0xEA a then
        Piece.ofTwo (plainSpread? a) a rest
      else
        .stray [a] Piece.illegal

/-- The first byte of the characters for users to define in the code page. -/
def userByte : UInt8 := 0xF0

/-- The character of two bytes of the code page, whose grid has no wide reverse solidus. -/
def codePage?
    (a b : UInt8) :
    Option Text :=
  match Grid.cp932Runs.char? (Grid.code a b) with
  | some c => some [c]
  | none => do
      let (row, cell) ← spread? a b
      if startsSpread 0xEA a then
        CodeSet.japanese.double? (UInt8.ofNat (row + 0x21)) (UInt8.ofNat (cell + 0x21))
      else if userByte ≤ a && a ≤ 0xF9 then
        let place := (row - 2 * (userByte.toNat - 0xC1)) * 94 + cell
        some [Char.ofNat (0xE000 + place)]
      else
        none

/-- The piece of the code page that starts with a byte from 128 on. -/
def codePagePiece
    (a : UInt8)
    (rest : List UInt8) :
    Piece :=
  if a = 0x80 then
    .char '\u0080' [a]
  else if a = 0xA0 then
    .char '\uF8F0' [a]
  else if 0xFD ≤ a then
    .char (Char.ofNat (0xF8F1 + (a.toNat - 0xFD))) [a]
  else
    match katakana? a with
    | some c => .char c [a]
    | none => Piece.ofTwo (codePage? a) a rest

/-- The piece of the extended charset of spread cells that starts with a byte from 128 on. -/
def extendedSpreadPiece
    (edition : Edition)
    (a : UInt8)
    (rest : List UInt8) :
    Piece :=
  match katakana? a with
  | some c => .char c [a]
  | none =>
      if !startsSpread 0xFC a then
        .stray [a] Piece.illegal
      else
        let text? (b : UInt8) : Option Text := do
          let (row, cell) ← spread? a b
          let cell := UInt8.ofNat (cell + 0x21)
          if row < 94 then
            romanCell? (UInt8.ofNat (row + 0x21)) cell
          else
            edition.second? (UInt8.ofNat (secondRow row)) cell
        let piece := Piece.ofTwo text? a rest
        match rest with
        | b :: _ =>
            match spread? a b with
            | some (row, cell) =>
                unlessLacking edition (UInt8.ofNat (row + 0x21)) (UInt8.ofNat (cell + 0x21))
                  [a, b] piece
            | none => piece
        | [] => piece

end LineTally.Japanese
