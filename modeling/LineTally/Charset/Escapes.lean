import LineTally.Charset.CharNames
import LineTally.Charset.Reading
import LineTally.Text.Hexadecimal

namespace LineTally.Escapes

/-!
# Text with escapes

Bytes stand for the first 256 characters, and a backslash starts an escape for
any character.  In the full notation there are escapes for control characters,
by digits and by name; in the raw one, only those with four or eight hexadecimal
digits.  An escape may stand for half a character.
-/

/-- The character that a byte stands for. -/
def charOfByte
    (b : UInt8) :
    Char :=
  Char.ofNat b.toNat

/-- The hexadecimal digits at the start of some bytes, as many as asked for at most. -/
def digits
    (count : Nat)
    (bytes : List UInt8) :
    List UInt8 :=
  (bytes.take count).takeWhile fun b => (Text.hexValue? (charOfByte b)).isSome

/-- The number that some digits stand for. -/
def value
    (digits : List UInt8) :
    Nat :=
  (Text.hexNumber? (digits.map charOfByte)).getD 0

/-- How many hexadecimal digits follow the letter of an escape in either notation. -/
def width?
    (letter : UInt8) :
    Option Nat :=
  if letter = 0x75 then
    some 4
  else if letter = 0x55 then
    some 8
  else
    none

/-- The reason for an escape with too few digits. -/
def truncated
    (letter : Char)
    (width : Nat) :
    Text :=
  "truncated \\".toList ++ letter :: List.replicate width 'X' ++ " escape".toList

/-- The piece of an escape with digits, given what its letter is and how many there must be. -/
def byDigits
    (tooLarge : Text)
    (letter : UInt8)
    (width : Nat)
    (rest : List UInt8) :
    Piece :=
  let digits := digits width rest
  let bytes := 0x5C :: letter :: digits
  let code := value digits
  if digits.length < width then
    .stray bytes (truncated (charOfByte letter) width)
  else if 0x10FFFF < code then
    .stray bytes tooLarge
  else
    match Text.charOfCode? code with
    | some c => .char c bytes
    | none => .halves [code] bytes

/-- The characters that one letter after a backslash stands for. -/
def letters : List (UInt8 × Text) :=
  [ (0x0A, []), (0x5C, ['\\']), (0x27, ['\'']), (0x22, ['"']), (0x62, ['\x08']),
    (0x66, ['\x0c']), (0x74, ['\t']), (0x6E, ['\n']), (0x72, ['\r']), (0x76, ['\x0b']),
    (0x61, ['\x07']) ]

/-- Whether a byte is an octal digit. -/
def isOctal
    (b : UInt8) :
    Bool :=
  0x30 ≤ b && b ≤ 0x37

/-- The piece of an escape with octal digits. -/
def byOctal
    (digits : List UInt8) :
    Piece :=
  .char (Char.ofNat (digits.foldl (fun value b => value * 8 + (b.toNat - 0x30)) 0))
    (0x5C :: digits)

/-- The piece of an escape by name, given what follows its letter. -/
def byName
    (rest : List UInt8) :
    Piece :=
  let opening : List UInt8 := [0x5C, 0x4E]
  let malformed := "malformed \\N character escape".toList
  match rest with
  | 0x7B :: rest =>
      let name := rest.takeWhile (· ≠ 0x7D)
      let opening := opening ++ [0x7B]
      if name.length = rest.length then
        .stray (opening ++ name) malformed
      else if name.isEmpty then
        .stray opening malformed
      else
        let bytes := opening ++ name ++ [0x7D]
        match CharNames.char? (name.map charOfByte) with
        | some c => .char c bytes
        | none => .stray bytes "unknown Unicode character name".toList
  | _ => .stray opening malformed

/-- The piece of an escape in the full notation, given its letter and what follows. -/
def escape
    (letter : UInt8)
    (rest : List UInt8) :
    Piece :=
  let tooLarge := "illegal Unicode character".toList
  match letters.lookup letter with
  | some chars => .text chars [0x5C, letter]
  | none =>
      if isOctal letter then
        byOctal ((letter :: rest.take 2).takeWhile isOctal)
      else if letter = 0x78 then
        byDigits tooLarge letter 2 rest
      else if letter = 0x4E then
        byName rest
      else
        match width? letter with
        | some width => byDigits tooLarge letter width rest
        | none => .text ['\\', charOfByte letter] [0x5C, letter]

/-- The piece that starts with a byte in the full notation. -/
def firstPiece
    (a : UInt8)
    (rest : List UInt8) :
    Piece :=
  if a ≠ 0x5C then
    .char (charOfByte a) [a]
  else
    match rest with
    | [] => .stray [a] "\\ at end of string".toList
    | letter :: rest => escape letter rest

/-- The piece that starts with a byte in the raw notation. -/
def firstRawPiece
    (a : UInt8)
    (rest : List UInt8) :
    Piece :=
  if a ≠ 0x5C then
    .char (charOfByte a) [a]
  else
    match rest with
    | [] => .char '\\' [a]
    | letter :: rest =>
        match width? letter with
        | some width => byDigits "\\Uxxxxxxxx out of range".toList letter width rest
        | none => .text ['\\', charOfByte letter] [a, letter]

/-- How some bytes are read in the full notation. -/
def reading
    (bytes : List UInt8) :
    Reading :=
  .ofPieces "unicodeescape".toList 0 (Piece.cut firstPiece bytes)

/-- How some bytes are read in the raw notation. -/
def rawReading
    (bytes : List UInt8) :
    Reading :=
  .ofPieces "rawunicodeescape".toList 0 (Piece.cut firstRawPiece bytes)

end LineTally.Escapes
