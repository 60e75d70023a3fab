import LineTally.Charset.Basic
import LineTally.Charset.Escapes
import LineTally.Charset.Fault
import LineTally.Charset.Hz
import LineTally.Charset.Policy
import LineTally.Charset.Utf7

namespace LineTally

/-!
# Decoding

A charset reads bytes as texts and stray bytes; what becomes of the stray ones is
up to a policy, which is given by its name.
-/

namespace Charset

/-- What some stray bytes are treated as. -/
def strayParts
    (policy : StrayPolicy)
    (codec : Text)
    (start : Nat)
    (bytes : List UInt8)
    (reason : Text) :
    Except DecodeFault (List Reading.Part) :=
  match policy with
  | .strict | .passHalves => .error (.stray codec start bytes reason)
  | .ignore => .ok []
  | .replace => .ok [.text [Text.replacement]]
  | .keepHalves =>
      if bytes.head?.any (· < 0x80) then
        .error (.stray codec start bytes reason)
      else
        .ok (bytes.map fun b => .half (Piece.keptUnit b))
  | .escape => .ok [.text (bytes.flatMap fun b => '\\' :: 'x' :: Text.hexDigits 2 b.toNat)]
  | .forEncoding _ => .error .policyForEncoding
  | .unknown name => .error (.unknownPolicy name)

/-- The parts of a reading with what stray bytes are treated as, and nothing empty. -/
def settled
    (policy : StrayPolicy)
    (codec : Text) :
    List Reading.Part → Except DecodeFault (List Reading.Part)
  | [] => .ok []
  | .text [] :: rest => settled policy codec rest
  | part :: rest => do
      let parts ←
        match part with
        | .stray start bytes reason => strayParts policy codec start bytes reason
        | part => .ok [part]
      let restParts ← settled policy codec rest
      return parts ++ restParts

/-- The piece of one byte in a charset whose bytes below 128 are ASCII. -/
def asciiBased
    (upper : Nat → Option Char)
    (reason : Text)
    (a : UInt8)
    (_ : List UInt8) :
    Piece :=
  let found := if a.toNat < 0x80 then some (Char.ofNat a.toNat) else upper a.toNat
  match found with
  | some c => .char c [a]
  | none => .stray [a] reason

/-- The character at a place of a table, unless nothing is encoded there. -/
def inTable?
    (table : Text)
    (place : Nat) :
    Option Char :=
  match table[place]? with
  | some c => if c = '\ufffe' then none else some c
  | none => none

/-- The reason for a byte that a table has no character for. -/
def notInTable : Text := "character maps to <undefined>".toList

/-- The reading in a charset that has one character for each byte at most. -/
def byteReading
    (codec reason : Text)
    (upper : Nat → Option Char)
    (bytes : List UInt8) :
    Reading :=
  .ofPieces codec 0 (Piece.cut (asciiBased upper reason) bytes)

/--
The pieces of some bytes under a policy, given the piece that starts with a byte,
and the one that does if encoded halves of characters pass.
-/
def piecesUnder
    (policy : StrayPolicy)
    (first passing : UInt8 → List UInt8 → Piece)
    (bytes : List UInt8) :
    List Piece :=
  match policy with
  | .passHalves => Piece.cut passing bytes
  | .keepHalves => Piece.cut (Piece.keeping first) bytes
  | _ => Piece.cut first bytes

/-- UTF-8 from some bytes on. -/
def utf8Reading
    (policy : StrayPolicy)
    (bytes : List UInt8) :
    Reading :=
  .ofPieces "utf-8".toList 0 (piecesUnder policy Utf8.firstPiece Utf8.firstPassing bytes)

/-- Units of two bytes after a mark. -/
def utf16Reading
    (policy : StrayPolicy)
    (order : ByteOrder)
    (start : Nat)
    (bytes : List UInt8) :
    Reading :=
  let pieces := piecesUnder policy (Utf16.firstPiece order) (Utf16.firstPassing order) bytes
  match order with
  | .lowFirst => .ofPieces "utf-16-le".toList start pieces
  | .highFirst => .ofPieces "utf-16-be".toList start pieces

/-- Units of four bytes after a mark. -/
def utf32Reading
    (policy : StrayPolicy)
    (order : ByteOrder)
    (start : Nat)
    (bytes : List UInt8) :
    Reading :=
  let pieces := piecesUnder policy (Utf32.firstPiece order) (Utf32.firstPassing order) bytes
  match order with
  | .lowFirst => .ofPieces "utf-32-le".toList start pieces
  | .highFirst => .ofPieces "utf-32-be".toList start pieces

/-- How a charset reads some bytes under a policy. -/
def reading
    (charset : Charset)
    (policy : StrayPolicy)
    (bytes : List UInt8) :
    Reading :=
  match charset, bytes with
  | .utf8, bytes => utf8Reading policy bytes
  | .utf8Signed, 0xEF :: 0xBB :: 0xBF :: rest => utf8Reading policy rest
  | .utf8Signed, [0xEF, 0xBB] => utf8Reading policy []
  | .utf8Signed, [0xEF] => utf8Reading policy []
  | .utf8Signed, bytes => utf8Reading policy bytes
  | .utf16Low, bytes => utf16Reading policy .lowFirst 0 bytes
  | .utf16High, bytes => utf16Reading policy .highFirst 0 bytes
  | .utf16, 0xFF :: 0xFE :: rest => utf16Reading policy .lowFirst 2 rest
  | .utf16, 0xFE :: 0xFF :: rest => utf16Reading policy .highFirst 2 rest
  | .utf16, bytes => utf16Reading policy .lowFirst 0 bytes
  | .utf32Low, bytes => utf32Reading policy .lowFirst 0 bytes
  | .utf32High, bytes => utf32Reading policy .highFirst 0 bytes
  | .utf32, 0xFF :: 0xFE :: 0x00 :: 0x00 :: rest => utf32Reading policy .lowFirst 4 rest
  | .utf32, 0x00 :: 0x00 :: 0xFE :: 0xFF :: rest => utf32Reading policy .highFirst 4 rest
  | .utf32, bytes => utf32Reading policy .lowFirst 0 bytes
  | .ascii, bytes | .punycode, bytes | .domainNames, bytes =>
      byteReading "ascii".toList "ordinal not in range(128)".toList (fun _ => none) bytes
  | .latin1, bytes =>
      byteReading "latin-1".toList [] (fun place => some (Char.ofNat place)) bytes
  | .upperHalf table, bytes =>
      byteReading "charmap".toList notInTable (fun place => inTable? table (place - 0x80)) bytes
  | .wholeTable table, bytes =>
      let first (a : UInt8) (_ : List UInt8) : Piece :=
        match inTable? table a.toNat with
        | some c => .char c [a]
        | none => .stray [a] notInTable
      .ofPieces "charmap".toList 0 (Piece.cut first bytes)
  | .multibyte name means, bytes => .ofPieces name 0 (Piece.cut means.firstPiece bytes)
  | .designated name means, bytes => .ofPieces name 0 (means.pieces bytes)
  | .hz, bytes => .ofPieces "hz".toList 0 (Hz.pieces bytes)
  | .utf7, bytes => Utf7.reading bytes
  | .escapes, bytes => Escapes.reading bytes
  | .rawEscapes, bytes => Escapes.rawReading bytes
  | .refusing, _ | .transform, _ => ⟨[], []⟩

/-- What keeps a charset from being read under a policy, whatever the bytes are. -/
def refusal? :
    Charset → StrayPolicy → Option DecodeFault
  | .domainNames, policy =>
      if policy = .strict then none else some (.policyRefused policy.name)
  | .punycode, policy =>
      if [.strict, .ignore, .replace].contains policy then
        none
      else
        some (.policyRefused policy.name)
  | .refusing, _ | .transform, _ => some .refused
  | _, _ => none

/-- What is wrong with bytes that have a unit but no byte-order mark before it. -/
def markFault? :
    Charset → List UInt8 → Option DecodeFault
  | .utf16, 0xFF :: 0xFE :: _ | .utf16, 0xFE :: 0xFF :: _ => none
  | .utf16, _ :: _ :: _ => some (.noByteOrder "UTF-16".toList)
  | .utf32, 0xFF :: 0xFE :: 0x00 :: 0x00 :: _ | .utf32, 0x00 :: 0x00 :: 0xFE :: 0xFF :: _ => none
  | .utf32, _ :: _ :: _ :: _ :: _ => some (.noByteOrder "UTF-32".toList)
  | _, _ => none

/-- Fails with the fault, if there is one. -/
def failWith :
    Option DecodeFault → Except DecodeFault Unit
  | some fault => .error fault
  | none => .ok ()

/-- The text of a reading. -/
def joined
    (policy : StrayPolicy)
    (reading : Reading) :
    Except DecodeFault Text :=
  (settled policy reading.codec reading.parts).map Reading.textOf

/-- The text of Punycode, whose digits are read strictly. -/
def decodePunycode
    (policy : StrayPolicy)
    (bytes : List UInt8) :
    Except DecodeFault Text := do
  let digits := (bytes.reverse.takeWhile (· ≠ 0x2D)).reverse
  let base ← joined policy (reading .ascii policy (bytes.take (bytes.length - digits.length - 1)))
  let digits ← joined .strict (reading .ascii .strict digits)
  let codes ← (Punycode.read (policy = .strict) base digits).mapError .punycode
  return Reading.textOf (codes.map Reading.partOfCode)

/-- The text of some bytes in a charset, with stray ones treated by a policy. -/
def decode
    (charset : Charset)
    (policy : StrayPolicy)
    (bytes : List UInt8) :
    Except DecodeFault Text := do
  failWith (refusal? charset policy)
  match charset with
  | .punycode => decodePunycode policy bytes
  | .domainNames =>
      let name ← joined policy (charset.reading policy bytes)
      (DomainName.read name).mapError .domainName
  | charset =>
      let text ← joined policy (charset.reading policy bytes)
      failWith (markFault? charset bytes)
      return text

/-- The charset of text that a name stands for. -/
def ofTextName
    (name : Text) :
    Except DecodeFault Charset :=
  if name = localName then
    .ok .utf8
  else
    match ofName? name with
    | none => .error (.unknownCharset name)
    | some .transform => .error (.notText name)
    | some charset => .ok charset

/-- The text of some bytes, with charset and policy given by their names. -/
def decodeNamed
    (charset policy : Text)
    (bytes : List UInt8) :
    Except DecodeFault Text := do
  if charset.any (· = '\x00') || policy.any (· = '\x00') then
    .error .nulInName
  let charset ← ofTextName charset
  charset.decode (.ofName policy) bytes

end Charset

end LineTally
