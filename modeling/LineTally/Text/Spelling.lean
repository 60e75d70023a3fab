import LineTally.Charset.Utf8
import LineTally.Text.Hexadecimal

namespace LineTally

/-!
# Spellings

The strings of a caller need not be texts: halves of characters may stand in them alone.
A name that a disk spells with bytes that are no UTF-8 comes as such a string, with a half
for each of these bytes.  A spelling is a string of this kind.  It can be encoded only if it
is a text after all.
-/

/-- A sign of a string: a character, or half of one by its number among the halves. -/
inductive Sign where
  | char (c : Char)
  | half (number : Fin 0x800)
  deriving Repr, DecidableEq

namespace Sign

/-- The code point of a half. -/
def codeOfHalf
    (number : Fin 0x800) :
    Nat :=
  0xD800 + number

/-- Whether a sign is half of a character. -/
def isHalf :
    Sign → Bool
  | .char _ => false
  | .half _ => true

/-- The bytes that stand for a sign in the name of a file, if any do. -/
def diskBytes? :
    Sign → Option (List UInt8)
  | .char c => some (Utf8.encodeChar c)
  | .half number =>
      let code := codeOfHalf number
      if 0xDC80 ≤ code && code ≤ 0xDCFF then some [Utf8.byte (code - 0xDC00)] else none

end Sign

/-- A string of characters and of halves. -/
abbrev Spelling := List Sign

/-- Why a string cannot be encoded: halves in it, the first of which is at a position. -/
structure EncodeFault where
  position : Nat
  half : Fin 0x800
  /-- How many halves follow right after it. -/
  others : Nat
  deriving Repr, DecidableEq

namespace EncodeFault

/-- What the message says. -/
def message
    (fault : EncodeFault) :
    Text :=
  let place :=
    if fault.others = 0 then
      "character '".toList ++ '\\' :: 'u' :: Text.hexDigits 4 (Sign.codeOfHalf fault.half)
        ++ "' in position ".toList ++ Decimal.ofNat fault.position
    else
      "characters in position ".toList ++ Decimal.ofNat fault.position ++ ['-']
        ++ Decimal.ofNat (fault.position + fault.others)
  "'utf-8' codec can't encode ".toList ++ place ++ ": surrogates not allowed".toList

end EncodeFault

namespace Spelling

/-- A text as a string. -/
def ofText
    (text : Text) :
    Spelling :=
  text.map .char

/-- The text that a string is, if there are no halves in it. -/
def text? :
    Spelling → Option Text
  | [] => some []
  | .char c :: rest => (text? rest).map (c :: ·)
  | .half _ :: _ => none

/-- The bytes of a string in UTF-8, from a position on. -/
def encodeFrom
    (position : Nat) :
    Spelling → Except EncodeFault (List UInt8)
  | [] => .ok []
  | .char c :: rest => (encodeFrom (position + 1) rest).map (Utf8.encodeChar c ++ ·)
  | .half number :: rest => .error ⟨position, number, (rest.takeWhile Sign.isHalf).length⟩

/-- The bytes of a string in UTF-8. -/
def encode
    (spelling : Spelling) :
    Except EncodeFault (List UInt8) :=
  encodeFrom 0 spelling

/-- The bytes of the name of a file, if a string can be one. -/
def diskBytes? :
    Spelling → Option (List UInt8)
  | [] => some []
  | sign :: rest => do
      let bytes ← sign.diskBytes?
      let others ← diskBytes? rest
      return bytes ++ others

/-- The part of a string after its last slash. -/
def baseName
    (spelling : Spelling) :
    Spelling :=
  (spelling.reverse.takeWhile (· ≠ .char '/')).reverse

end Spelling

end LineTally
