import LineTally.Charset.Grid.Gb2312
import LineTally.Charset.Grid.JisX0208
import LineTally.Charset.Grid.JisX0212
import LineTally.Charset.Grid.JisX0213
import LineTally.Charset.Grid.KsX1001
import LineTally.Charset.Piece

namespace LineTally

/-!
# Charsets with designated sets

Escape sequences designate sets of characters to three registers.  The first
register is in use, or the second one between the two shift bytes; the third is
used for single characters after an escape of its own.  Which sets may be
designated, and which of these means there are, depends on the charset.
-/

/-- A set of characters that can be designated. -/
inductive CodeSet where
  | ascii
  | latin1
  | greek
  | romanJapanese
  | halfKatakana
  | chinese
  | korean
  | japaneseOld
  | japanese
  | supplementaryJapanese
  | firstJapanese2000
  | firstJapanese2004
  | secondJapanese
  deriving Repr, DecidableEq

namespace CodeSet

/-- The last byte of the escape sequence that designates a set. -/
def finalByte :
    CodeSet → UInt8
  | .ascii => 0x42
  | .latin1 => 0x41
  | .greek => 0x46
  | .romanJapanese => 0x4A
  | .halfKatakana => 0x49
  | .chinese => 0x41
  | .korean => 0x43
  | .japaneseOld => 0x40
  | .japanese => 0x42
  | .supplementaryJapanese => 0x44
  | .firstJapanese2000 => 0x4F
  | .firstJapanese2004 => 0x51
  | .secondJapanese => 0x50

/-- Whether a character of a set takes two bytes. -/
def isWide :
    CodeSet → Bool
  | .ascii | .latin1 | .greek | .romanJapanese | .halfKatakana => false
  | _ => true

/-- The character of one byte below 128, if the set has one. -/
def single?
    (set : CodeSet)
    (a : UInt8) :
    Option Char :=
  match set with
  | .ascii => some (Char.ofNat a.toNat)
  | .romanJapanese =>
      if a = 0x5C then
        some '¥'
      else if a = 0x7E then
        some '‾'
      else
        some (Char.ofNat a.toNat)
  | .halfKatakana =>
      if 0x21 ≤ a && a ≤ 0x5F then some (Char.ofNat (0xFF61 + (a.toNat - 0x21))) else none
  | _ => none

/-- The character or characters of two bytes, if the set has them. -/
def double?
    (set : CodeSet)
    (a b : UInt8) :
    Option Text :=
  let cell? (rows : List String) : Option Text :=
    (Charset.Grid.cell? rows a b).map fun c => [c]
  let pair? : Option Text :=
    (Charset.Grid.jisX0213Pairs.lookup (a, b)).map String.toList
  let first? : Option Text :=
    (cell? Charset.Grid.jisX0208Rows).or ((cell? Charset.Grid.jisX0213FirstRows).or pair?)
  match set with
  | .chinese => cell? Charset.Grid.gb2312Rows
  | .korean => cell? Charset.Grid.ksX1001Rows
  | .japaneseOld | .japanese => cell? Charset.Grid.jisX0208Rows
  | .supplementaryJapanese => cell? Charset.Grid.jisX0212Rows
  | .firstJapanese2000 => if Charset.Grid.jisX0213Late.contains (a, b) then none else first?
  | .firstJapanese2004 => first?
  | .secondJapanese => cell? Charset.Grid.jisX0213SecondRows
  | _ => none

end CodeSet

/-- The means that a charset of this family has. -/
structure Iso2022 where
  /-- The sets that may be designated besides ASCII. -/
  sets : List CodeSet
  /-- Whether the two shift bytes are in use. -/
  hasShifts : Bool := false
  /-- Whether the third register is in use. -/
  hasThird : Bool := false
  /-- Whether a revision of the Japanese set may be announced. -/
  hasRevision : Bool := true
  deriving Repr, DecidableEq

namespace Iso2022

/-- The Korean charset. -/
def korean : Iso2022 := { sets := [.korean], hasShifts := true, hasRevision := false }

/-- The Japanese charset. -/
def japanese : Iso2022 := { sets := [.japanese, .romanJapanese, .japaneseOld] }

/-- The Japanese charset with the supplementary set. -/
def japanese1 : Iso2022 :=
  { sets := [.japanese, .supplementaryJapanese, .romanJapanese, .japaneseOld] }

/-- The Japanese charset with sets of other languages. -/
def japanese2 : Iso2022 :=
  { sets :=
      [.japanese, .supplementaryJapanese, .korean, .chinese, .romanJapanese, .japaneseOld,
        .latin1, .greek]
    hasThird := true }

/-- The Japanese charset with the extended set. -/
def japanese3 : Iso2022 := { sets := [.japanese, .firstJapanese2000, .secondJapanese] }

/-- The Japanese charset with the second edition of the extended set. -/
def japanese2004 : Iso2022 := { sets := [.japanese, .firstJapanese2004, .secondJapanese] }

/-- The Japanese charset with the supplementary set and katakana of half the width. -/
def japaneseExtended : Iso2022 :=
  { sets := [.japanese, .supplementaryJapanese, .romanJapanese, .halfKatakana, .japaneseOld] }

/-- The charsets of this family by their registered names. -/
def named : List (String × Iso2022) :=
  [ ("iso2022_kr", korean), ("iso2022_jp", japanese), ("iso2022_jp_1", japanese1),
    ("iso2022_jp_2", japanese2), ("iso2022_jp_3", japanese3), ("iso2022_jp_2004", japanese2004),
    ("iso2022_jp_ext", japaneseExtended) ]

/-- One of the three registers. -/
inductive Register where
  | first
  | second
  | third
  deriving Repr, DecidableEq

/-- What earlier bytes have set. -/
structure Mode where
  first : CodeSet := .ascii
  second : CodeSet := .ascii
  third : CodeSet := .ascii
  isShifted : Bool := false
  /-- Whether an unknown escape sequence is being passed through. -/
  inUnknown : Bool := false
  deriving Repr, DecidableEq

namespace Mode

/-- The mode with a set designated to a register. -/
def designate
    (mode : Mode)
    (register : Register)
    (set : CodeSet) :
    Mode :=
  match register with
  | .first => { mode with first := set }
  | .second => { mode with second := set }
  | .third => { mode with third := set }

/-- The set that bytes stand for characters of. -/
def current
    (mode : Mode) :
    CodeSet :=
  if mode.isShifted then mode.second else mode.first

end Mode

/-- How many bytes an escape sequence has less than. -/
def escapeBound : Nat := 16

/-- Whether a byte ends an escape sequence. -/
def endsEscape
    (b : UInt8) :
    Bool :=
  (0x41 ≤ b && b ≤ 0x5A) || b = 0x40

/-- How many bytes an escape sequence has. -/
inductive EscapeSize where
  | known (size : Nat)
  /-- It does not end before the bytes do. -/
  | cutShort
  /-- It does not end soon enough. -/
  | endless
  deriving Repr, DecidableEq

/--
The size of an escape sequence, of whose bytes those before a place end nothing.
The announcement of a revision, three bytes long, belongs to the sequence that
follows it.
-/
def escapeSize
    (hasRevision : Bool)
    (bytes : List UInt8) :
    Nat → Nat → EscapeSize
  | 0, _ => .endless
  | fuel + 1, place =>
      if escapeBound ≤ place then
        .endless
      else
        match bytes[place]? with
        | none => .cutShort
        | some b =>
            if endsEscape b then
              .known (place + 1)
            else if hasRevision && b = 0x26 && bytes[place + 1]? = some 0x40 then
              escapeSize hasRevision bytes fuel (place + 3)
            else
              escapeSize hasRevision bytes fuel (place + 1)

/-- What an escape sequence designates: a register, and the set by its width and last byte. -/
structure Designation where
  register : Register
  isWide : Bool
  finalByte : UInt8
  deriving Repr, DecidableEq

/-- How many bytes announce a revision of the Japanese set. -/
def revisionSize : Nat := 3

/-- The bytes that designate the Japanese set. -/
def japaneseBytes : List UInt8 := [0x1B, 0x24, 0x42]

/-- What the bytes of an escape sequence designate, if they have the form of a designation. -/
def designation?
    (charset : Iso2022) :
    List UInt8 → Option Designation
  | [_, 0x24, last] => some ⟨.first, true, last⟩
  | [_, 0x28, last] => some ⟨.first, false, last⟩
  | [_, 0x29, last] => some ⟨.second, false, last⟩
  | [_, 0x2E, last] => if charset.hasThird then some ⟨.third, false, last⟩ else none
  | [_, 0x24, 0x28, last] => some ⟨.first, true, last⟩
  | [_, 0x24, 0x29, last] => some ⟨.second, true, last⟩
  | bytes =>
      if charset.hasRevision && bytes.length = revisionSize + japaneseBytes.length
          && bytes.drop revisionSize = japaneseBytes then
        some ⟨.first, true, CodeSet.japanese.finalByte⟩
      else
        none

/-- The set that is designated, if the charset has it. -/
def set?
    (charset : Iso2022)
    (designation : Designation) :
    Option CodeSet :=
  (CodeSet.ascii :: charset.sets).find? fun set =>
    set.isWide = designation.isWide && set.finalByte = designation.finalByte

/-- The piece of an escape sequence with its bytes, and the mode after it. -/
def escapePiece
    (charset : Iso2022)
    (mode : Mode)
    (bytes : List UInt8) :
    Piece × Mode :=
  let found := do
    let designation ← designation? charset bytes
    let set ← charset.set? designation
    some (mode.designate designation.register set)
  match found with
  | some mode => (.silent bytes, mode)
  | none => (.stray bytes Piece.illegal, mode)

/-- Whether a byte after the escape byte starts a sequence of a known form. -/
def startsKnown
    (b : UInt8) :
    Bool :=
  [0x24, 0x26, 0x28, 0x29, 0x2E].contains b

/-- The Greek characters from byte 160 on; where there is none, U+FFFE stands. -/
def greekTable : Text :=
  ("\u00a0‘’£\ufffe\ufffe¦§¨©\ufffe«¬\u00ad\ufffe―°±²³΄΅Ά·ΈΉΊ»Ό½ΎΏ"
    ++ "ΐΑΒΓΔΕΖΗΘΙΚΛΜΝΞΟΠΡ\ufffeΣΤΥΦΧΨΩΪΫάέήί"
    ++ "ΰαβγδεζηθικλμνξοπρςστυφχψωϊϋόύώ\ufffe").toList

/-- The character that a byte stands for in the third register. -/
def third?
    (set : CodeSet)
    (b : UInt8) :
    Option Char :=
  let upper := (b.toNat + 0x80) % 0x100
  match set with
  | .ascii => if b < 0x80 then some (Char.ofNat b.toNat) else none
  | .latin1 => if b < 0x80 then some (Char.ofNat upper) else none
  | .greek =>
      if upper < 0xA0 then
        some (Char.ofNat upper)
      else
        match greekTable[upper - 0xA0]? with
        | some c => if c = '\ufffe' then none else some c
        | none => none
  | _ => none

/-- The piece that starts with an escape byte, and the mode after it. -/
def afterEscape
    (charset : Iso2022)
    (mode : Mode)
    (a : UInt8)
    (rest : List UInt8) :
    Piece × Mode :=
  match rest with
  | [] => (.stray [a] Piece.incomplete, mode)
  | b :: more =>
      if startsKnown b then
        match escapeSize charset.hasRevision (a :: rest) escapeBound 1 with
        | .known size => escapePiece charset mode ((a :: rest).take size)
        | .cutShort => (.stray (a :: rest) Piece.incomplete, mode)
        | .endless => (.stray [a] Piece.illegal, mode)
      else if charset.hasThird && b = 0x4E then
        match more with
        | [] => (.stray [a, b] Piece.incomplete, mode)
        | c :: _ =>
            match third? mode.third c with
            | some found => (.char found [a, b, c], mode)
            | none => (.stray [a, b, c] Piece.illegal, mode)
      else
        (.char (Char.ofNat a.toNat) [a], { mode with inUnknown := true })

/-- The piece of a character in the set that is in use. -/
def inSet
    (set : CodeSet)
    (a : UInt8)
    (rest : List UInt8) :
    Piece :=
  if set.isWide then
    match rest with
    | [] => .stray [a] Piece.incomplete
    | b :: _ =>
        match set.double? a b with
        | some chars => .text chars [a, b]
        | none => .stray [a, b] Piece.illegal
  else
    match set.single? a with
    | some c => .char c [a]
    | none => .stray [a] Piece.illegal

/-- The piece that starts with a byte, and the mode after it. -/
def firstPiece
    (charset : Iso2022)
    (mode : Mode)
    (a : UInt8)
    (rest : List UInt8) :
    Piece × Mode :=
  let plain := Piece.char (Char.ofNat a.toNat) [a]
  if mode.inUnknown then
    (plain, { mode with inUnknown := !endsEscape a })
  else if a = 0x1B then
    afterEscape charset mode a rest
  else if a = 0x0E && charset.hasShifts then
    (.silent [a], { mode with isShifted := true })
  else if a = 0x0F && charset.hasShifts then
    (.silent [a], { mode with isShifted := false })
  else if a = 0x0A then
    (plain, { mode with isShifted := false })
  else if a < 0x20 then
    (plain, mode)
  else if 0x80 ≤ a then
    (.stray [a] Piece.illegal, mode)
  else
    (inSet mode.current a rest, mode)

/-- The pieces of some bytes, in their order. -/
def pieces
    (charset : Iso2022)
    (bytes : List UInt8) :
    List Piece :=
  Piece.cutModes (firstPiece charset) { } bytes

end Iso2022

end LineTally
