import LineTally.Charset.Grid.KsX1001
import LineTally.Charset.Piece

namespace LineTally.Korean

/-!
# Korean charsets

Two bytes a character; bytes below 128 that start a character are ASCII.  A syllable is put
together of an initial, a medial and perhaps a final letter.  The charsets differ in how they
have the syllables that are not in KS X 1001.
-/

open Charset

/-- The letters that start a syllable. -/
def initials : Text := "ㄱㄲㄴㄷㄸㄹㅁㅂㅃㅅㅆㅇㅈㅉㅊㅋㅌㅍㅎ".toList

/-- The letters in the middle of a syllable. -/
def medials : Text := "ㅏㅐㅑㅒㅓㅔㅕㅖㅗㅘㅙㅚㅛㅜㅝㅞㅟㅠㅡㅢㅣ".toList

/-- The letters that end a syllable. -/
def finals : Text := "ㄱㄲㄳㄴㄵㄶㄷㄹㄺㄻㄼㄽㄾㄿㅀㅁㅂㅄㅅㅆㅇㅈㅊㅋㅌㅍㅎ".toList

/-- The first syllable. -/
def firstSyllable : Nat := 0xAC00

/-- How many syllables there are. -/
def syllables : Nat := 11172

/-- The syllable of letters, given by their places; the final letter counts from one. -/
def syllable
    (initial medial final : Nat) :
    Char :=
  Char.ofNat (firstSyllable + (initial * 21 + medial) * 28 + final)

/-- The character of KS X 1001 with two bytes from 128 on. -/
def ksX1001?
    (a b : UInt8) :
    Option Char :=
  Grid.cell? Grid.ksX1001Rows (a - 0x80) (b - 0x80)

/-- The byte before each letter of a syllable that is spelled out. -/
def letterRow : UInt8 := 0xA4

/-- The byte in the place of a letter that there is not. -/
def filler : UInt8 := 0xD4

/-- The place of the letter with a byte, if it is among the given ones. -/
def letterPlace?
    (letters : Text)
    (b : UInt8) :
    Option Nat := do
  let letter ← ksX1001? letterRow b
  letters.findIdx? (· = letter)

/-- The syllable that is spelled out by the bytes of its letters. -/
def spelled?
    (initial medial final : UInt8) :
    Option Char := do
  let initial ← letterPlace? initials initial
  let medial ← letterPlace? medials medial
  if final = filler then
    return syllable initial medial 0
  else
    let final ← letterPlace? finals final
    return syllable initial medial (final + 1)

/-- The piece of the plain charset that starts with a byte from 128 on. -/
def plainPiece
    (a : UInt8)
    (rest : List UInt8) :
    Piece :=
  match rest with
  | b :: others =>
      if a = letterRow && b = filler then
        match others with
        | c :: initial :: d :: medial :: e :: final :: _ =>
            let found :=
              if [c, d, e].all (· = letterRow) then spelled? initial medial final else none
            match found with
            | some found => .char found [a, b, c, initial, d, medial, e, final]
            | none => .stray [a] Piece.illegal
        | few => .stray (a :: b :: few) Piece.incomplete
      else
        Piece.ofTwo (fun b => (ksX1001? a b).map fun c => [c]) a rest
  | [] => .stray [a] Piece.incomplete

/-- The syllables of KS X 1001, in the order of their codes. -/
def takenSyllables : List Grid.Taken :=
  Grid.takenChars
    ((Grid.chars Grid.ksX1001Rows).filter fun c =>
      firstSyllable ≤ c.toNat && c.toNat < firstSyllable + syllables)

/-- The place of a second byte, which is a letter or from 129 to 254. -/
def cellOf?
    (b : UInt8) :
    Option Nat :=
  if 0x41 ≤ b && b ≤ 0x5A then
    some (b.toNat - 0x41)
  else if 0x61 ≤ b && b ≤ 0x7A then
    some (b.toNat - 0x47)
  else if 0x81 ≤ b && b ≤ 0xFE then
    some (b.toNat - 0x4D)
  else
    none

/-- The place of two bytes among those for the syllables that KS X 1001 lacks. -/
def syllablePlace?
    (a b : UInt8) :
    Option Nat := do
  let cell ← cellOf? b
  if 0x81 ≤ a && a ≤ 0xA0 then
    some ((a.toNat - 0x81) * 178 + cell)
  else if 0xA1 ≤ a && b < 0xA1 then
    some (0x20 * 178 + (a.toNat - 0xA1) * 84 + cell)
  else
    none

/-- The syllable with two bytes that is not in KS X 1001. -/
def syllable?
    (a b : UInt8) :
    Option Char := do
  let place ← syllablePlace? a b
  let code := Grid.nthFree takenSyllables firstSyllable place
  if code < firstSyllable + syllables then some (Char.ofNat code) else none

/-- The character of the unified charset with two bytes. -/
def unified?
    (a b : UInt8) :
    Option Char :=
  (ksX1001? a b).or (syllable? a b)

/-- A letter of the combining charset, by the five bits for it. -/
inductive Letter where
  | none
  | at (place : Nat)
  deriving Repr, DecidableEq

/-- The initial letter of five bits. -/
def initialOf?
    (bits : Nat) :
    Option Letter :=
  if bits = 1 then some .none
  else if 2 ≤ bits && bits ≤ 20 then some (.at (bits - 2))
  else Option.none

/-- The medial letter of five bits, of which each group of eight skips the first two. -/
def medialOf?
    (bits : Nat) :
    Option Letter :=
  if bits = 2 then some .none
  else if 3 ≤ bits && bits ≤ 29 && 2 ≤ bits % 8 then some (.at (bits / 8 * 6 + bits % 8 - 3))
  else Option.none

/-- The final letter of five bits. -/
def finalOf?
    (bits : Nat) :
    Option Letter :=
  if bits = 1 then some .none
  else if 2 ≤ bits && bits ≤ 17 then some (.at (bits - 2))
  else if 19 ≤ bits && bits ≤ 29 then some (.at (bits - 3))
  else Option.none

/-- The character that letters make: a syllable, one of them alone, or a wide blank. -/
def combined? :
    Letter → Letter → Letter → Option Char
  | .at initial, .at medial, .none => some (syllable initial medial 0)
  | .at initial, .at medial, .at final => some (syllable initial medial (final + 1))
  | .at initial, .none, .none => initials[initial]?
  | .none, .at medial, .none => medials[medial]?
  | .none, .none, .at final => finals[final]?
  | .none, .none, .none => some '\u3000'
  | _, _, _ => Option.none

/-- The character of the combining charset with two bytes that stand for letters. -/
def ofLetters?
    (a b : UInt8) :
    Option Char := do
  let code := Grid.code a b
  let initial ← initialOf? (code / 0x400 % 0x20)
  let medial ← medialOf? (code / 0x20 % 0x20)
  let final ← finalOf? (code % 0x20)
  combined? initial medial final

/-- The character of the combining charset with two bytes for a cell of KS X 1001. -/
def ofCell?
    (a b : UInt8) :
    Option Char :=
  let hasCell := (0x31 ≤ b && b ≤ 0x7E) || (0x91 ≤ b && b ≤ 0xFE)
  let isLetter := a = 0xDA && 0xA1 ≤ b && b ≤ 0xD3
  if a < 0xD9 || a = 0xDF || 0xF9 < a || !hasCell || isLetter then
    none
  else
    let row := if a < 0xE0 then 2 * (a.toNat - 0xD9) else 2 * a.toNat - 0x197
    let cell := if b < 0x91 then b.toNat - 0x31 else b.toNat - 0x43
    Grid.cell? Grid.ksX1001Rows
      (UInt8.ofNat (row + cell / 94 + 0x21)) (UInt8.ofNat (cell % 94 + 0x21))

/-- The character of the combining charset with two bytes. -/
def combining?
    (a b : UInt8) :
    Option Char :=
  if a < 0xD8 then ofLetters? a b else ofCell? a b

end LineTally.Korean
