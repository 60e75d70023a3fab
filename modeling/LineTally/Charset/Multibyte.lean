import LineTally.Charset.Chinese
import LineTally.Charset.Japanese
import LineTally.Charset.Korean

namespace LineTally

/-!
# Charsets of several bytes a character

The East Asian charsets that take bytes from 128 on.  Below it they are ASCII, or the
Japanese form of it.
-/

/-- The charsets of several bytes a character, by their usual names. -/
inductive Multibyte where
  | gb2312
  | gbk
  | gb18030
  | big5
  | cp950
  | hongKong
  | eucKr
  | cp949
  | johab
  | eucJp
  | eucJisX0213 (edition : Japanese.Edition)
  | shiftJis
  | cp932
  | shiftJisX0213 (edition : Japanese.Edition)
  deriving Repr, DecidableEq

namespace Multibyte

/-- The charsets by their registered names. -/
def named : List (String × Multibyte) :=
  [ ("gb2312", gb2312), ("gbk", gbk), ("gb18030", gb18030), ("big5", big5), ("cp950", cp950),
    ("big5hkscs", hongKong), ("euc_kr", eucKr), ("cp949", cp949), ("johab", johab),
    ("euc_jp", eucJp), ("euc_jisx0213", eucJisX0213 .first),
    ("euc_jis_2004", eucJisX0213 .second), ("shift_jis", shiftJis), ("cp932", cp932),
    ("shift_jisx0213", shiftJisX0213 .first), ("shift_jis_2004", shiftJisX0213 .second) ]

/-- The set of the characters of one byte below 128. -/
def single :
    Multibyte → CodeSet
  | .shiftJisX0213 _ => .romanJapanese
  | _ => .ascii

/-- The piece of two bytes in a charset where two bytes are one character. -/
def ofTwo
    (char? : UInt8 → UInt8 → Option Char)
    (a : UInt8)
    (rest : List UInt8) :
    Piece :=
  Piece.ofTwo (fun b => (char? a b).map fun c => [c]) a rest

/-- The piece that starts with a byte from 128 on. -/
def wide :
    Multibyte → UInt8 → List UInt8 → Piece
  | .gb2312 => ofTwo Chinese.gb2312?
  | .gbk => ofTwo Chinese.gbk?
  | .gb18030 => Chinese.gb18030Piece
  | .big5 => ofTwo Chinese.big5?
  | .cp950 => ofTwo Chinese.cp950?
  | .hongKong => fun a => Piece.ofTwo (Chinese.hongKong? a) a
  | .eucKr => Korean.plainPiece
  | .cp949 => ofTwo Korean.unified?
  | .johab => ofTwo Korean.combining?
  | .eucJp => Japanese.plainRowPiece
  | .eucJisX0213 edition => Japanese.extendedRowPiece edition
  | .shiftJis => Japanese.plainSpreadPiece
  | .cp932 => Japanese.codePagePiece
  | .shiftJisX0213 edition => Japanese.extendedSpreadPiece edition

/-- The piece that starts with a byte. -/
def firstPiece
    (charset : Multibyte)
    (a : UInt8)
    (rest : List UInt8) :
    Piece :=
  if a < 0x80 then
    match charset.single.single? a with
    | some c => .char c [a]
    | none => .stray [a] Piece.illegal
  else
    charset.wide a rest

end Multibyte

end LineTally
