import LineTally.Text.Basic

namespace LineTally.Charset.Grid

/-!
# Grids of characters

The East Asian sets of characters are grids of 94 rows of 94 cells.  A character
is given by two bytes, its row and its cell, each counted from byte 0x21 on.  In
a table of rows, a blank stands for a cell without a character, and the cells
after the last character of a row are left out.

What is added to a grid has a code of two bytes, the first of which counts 256 times.  Where
characters are added in the order of their own codes, no table is needed.
-/

/-- The byte of the first row, and of the first cell of a row. -/
def firstByte : UInt8 := 0x21

/-- The character in a row and a cell. -/
def cell?
    (rows : List String)
    (row cell : UInt8) :
    Option Char :=
  if row < firstByte || cell < firstByte then
    none
  else do
    let cells ← rows[(row - firstByte).toNat]?
    let c ← cells.toList[(cell - firstByte).toNat]?
    if c = ' ' then none else some c

/-- The characters in some rows. -/
def chars
    (rows : List String) :
    List Char :=
  rows.flatMap fun row => row.toList.filter (· ≠ ' ')

/-- The code of two bytes. -/
def code
    (a b : UInt8) :
    Nat :=
  a.toNat * 0x100 + b.toNat

/-- Runs of characters with successive codes, each under its first code; a blank is none. -/
abbrev Runs := List (Nat × String)

/-- The character with a code. -/
def Runs.char?
    (runs : Runs)
    (code : Nat) :
    Option Char :=
  runs.findSome? fun run =>
    if run.1 ≤ code then (run.2.toList[code - run.1]?).filter (· ≠ ' ') else none

/-- Numbers that are taken: a first one and how many there are. -/
structure Taken where
  first : Nat
  size : Nat := 1

/-- The free number at a place, counted from a first one on; what is taken is in order. -/
def nthFree
    (taken : List Taken)
    (first place : Nat) :
    Nat :=
  taken.foldl
    (fun number others => if others.first ≤ number then number + others.size else number)
    (first + place)

/-- Characters that are taken, one by one, in the order of their codes. -/
def takenChars
    (chars : List Char) :
    List Taken :=
  (chars.mergeSort fun first second => first.toNat ≤ second.toNat).map fun c => ⟨c.toNat, 1⟩

end LineTally.Charset.Grid
