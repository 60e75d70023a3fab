import LineTally.Charset.Grid.Big5
import LineTally.Charset.Grid.Gb2312
import LineTally.Charset.Grid.Gbk
import LineTally.Charset.Grid.HongKong
import LineTally.Charset.Piece

namespace LineTally.Chinese

/-!
# Chinese charsets

Two bytes a character in all of them, and four in one.  Bytes below 128 that start a
character are ASCII.  The mainland charsets extend GB 2312: the ideographs that it lacks are
added in the order of their codes, and so are all other characters in four bytes.  The
charsets of Taiwan and Hong Kong extend Big5.
-/

open Charset

/-- The first of the ideographs that the mainland charsets have. -/
def firstIdeograph : Nat := 0x4E00

/-- The last of these ideographs. -/
def lastIdeograph : Nat := 0x9FA5

/-- Whether a character is one of these ideographs. -/
def isIdeograph
    (c : Char) :
    Bool :=
  firstIdeograph ≤ c.toNat && c.toNat ≤ lastIdeograph

/-- The character of GB 2312 with two bytes from 128 on. -/
def gb2312?
    (a b : UInt8) :
    Option Char :=
  Grid.cell? Grid.gb2312Rows (a - 0x80) (b - 0x80)

/-- The place of a second byte, which is from 64 to 126 or from 128 to 254. -/
def cellOf?
    (b : UInt8) :
    Option Nat :=
  if 0x40 ≤ b && b ≤ 0x7E then
    some (b.toNat - 0x40)
  else if 0x80 ≤ b && b ≤ 0xFE then
    some (b.toNat - 0x41)
  else
    none

/-- How many cells there are for a second byte. -/
def cells : Nat := 190

/-- How many of the cells are for a second byte below 161. -/
def lowCells : Nat := 96

/-- The place of two bytes among those for the ideographs that GB 2312 lacks. -/
def ideographPlace?
    (a b : UInt8) :
    Option Nat := do
  let cell ← cellOf? b
  if 0x81 ≤ a && a ≤ 0xA0 then
    some ((a.toNat - 0x81) * cells + cell)
  else if 0xAA ≤ a && a ≤ 0xFE && cell < lowCells then
    some (0x20 * cells + (a.toNat - 0xAA) * lowCells + cell)
  else
    none

/-- The ideographs of GB 2312, in the order of their codes. -/
def takenIdeographs : List Grid.Taken :=
  Grid.takenChars ((Grid.chars Grid.gb2312Rows).filter isIdeograph)

/-- The ideograph with two bytes that is not in GB 2312. -/
def ideograph?
    (a b : UInt8) :
    Option Char := do
  let place ← ideographPlace? a b
  let code := Grid.nthFree takenIdeographs firstIdeograph place
  if code ≤ lastIdeograph then some (Char.ofNat code) else none

/-- The character of GBK with two bytes. -/
def gbk?
    (a b : UInt8) :
    Option Char :=
  (Grid.gbkRuns.char? (Grid.code a b)).or ((gb2312? a b).or (ideograph? a b))

/-- The code of two bytes for users to define, among the codes for private use. -/
def userDefined?
    (a b : UInt8) :
    Option Nat := do
  let cell ← cellOf? b
  if 0xAA ≤ a && a ≤ 0xAF && lowCells ≤ cell then
    some (0xE000 + (a.toNat - 0xAA) * (cells - lowCells) + (cell - lowCells))
  else if 0xF8 ≤ a && a ≤ 0xFE && lowCells ≤ cell then
    some (0xE234 + (a.toNat - 0xF8) * (cells - lowCells) + (cell - lowCells))
  else if 0xA1 ≤ a && a ≤ 0xA7 && cell < lowCells then
    some (0xE4C6 + (a.toNat - 0xA1) * lowCells + cell)
  else
    none

/-- The character of GB 18030 with two bytes. -/
def gb18030?
    (a b : UInt8) :
    Option Char :=
  (gbk? a b).or
    ((Grid.gb18030Runs.char? (Grid.code a b)).or ((userDefined? a b).map Char.ofNat))

/-- What has two bytes in GB 18030, or is half of a character, in the order of the codes. -/
def takenCodes : List Grid.Taken :=
  let added := (Grid.gbkRuns ++ Grid.gb18030Runs).map Prod.snd
  -- The extension has another dot in the place of this one.
  let signs := ((Grid.chars Grid.gb2312Rows).erase '・' ++ Grid.chars added).eraseDups
  let ranges : List Grid.Taken :=
    [ ⟨firstIdeograph, lastIdeograph + 1 - firstIdeograph⟩, ⟨0xD800, 0x800⟩, ⟨0xE000, 0x766⟩ ]
  (Grid.takenChars (signs.filter (!isIdeograph ·)) ++ ranges).mergeSort
    fun first second => first.first ≤ second.first

/-- The character of GB 18030 with four bytes, of which the second and fourth are digits. -/
def four?
    (a b c d : UInt8) :
    Option Char :=
  if 0x81 ≤ a && a ≤ 0xFE && 0x81 ≤ c && c ≤ 0xFE && 0x30 ≤ d && d ≤ 0x39 then
    let place (lead : UInt8) : Nat :=
      (((a.toNat - lead.toNat) * 10 + (b.toNat - 0x30)) * 126 + (c.toNat - 0x81)) * 10
        + (d.toNat - 0x30)
    if a < 0x85 then
      let code := Grid.nthFree takenCodes 0x80 (place 0x81)
      if code < 0x10000 then some (Char.ofNat code) else none
    else if 0x90 ≤ a then
      let code := 0x10000 + place 0x90
      if code < 0x110000 then some (Char.ofNat code) else none
    else
      none
  else
    none

/-- The piece of GB 18030 that starts with a byte from 128 on. -/
def gb18030Piece
    (a : UInt8)
    (rest : List UInt8) :
    Piece :=
  match rest with
  | b :: others =>
      if 0x30 ≤ b && b ≤ 0x39 then
        match others with
        | c :: d :: _ =>
            match four? a b c d with
            | some found => .char found [a, b, c, d]
            | none => .stray [a] Piece.illegal
        | few => .stray (a :: b :: few) Piece.incomplete
      else
        Piece.ofTwo (fun b => (gb18030? a b).map fun c => [c]) a rest
  | [] => .stray [a] Piece.incomplete

/-- The character of Big5 with two bytes. -/
def big5?
    (a b : UInt8) :
    Option Char :=
  Grid.big5Runs.char? (Grid.code a b)

/-- The character of the code page 950 with two bytes. -/
def cp950?
    (a b : UInt8) :
    Option Char :=
  (Grid.cp950Runs.char? (Grid.code a b)).or (big5? a b)

/-- The letters with two marks, each of which is two characters. -/
def marked : List (Nat × Text) :=
  [ (0x8862, ['\u00CA', '\u0304']), (0x8864, ['\u00CA', '\u030C']),
    (0x88A3, ['\u00EA', '\u0304']), (0x88A5, ['\u00EA', '\u030C']) ]

/-- Whether the supplementary set has something else for two bytes than Big5 has. -/
def isReplaced
    (code : Nat) :
    Bool :=
  0xC6A1 ≤ code && code < 0xC900

/-- The text of two bytes in Big5 with the supplementary set of Hong Kong. -/
def hongKong?
    (a b : UInt8) :
    Option Text :=
  let code := Grid.code a b
  let inBig5? := if isReplaced code then none else big5? a b
  ((inBig5?.or (Grid.hongKongRuns.char? code)).map fun c => [c]).or (marked.lookup code)

end LineTally.Chinese
