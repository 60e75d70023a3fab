import LineTally.Charset.DomainName
import LineTally.Charset.Utf8

namespace LineTally

/-!
# Faults in decoding

Every way in which bytes can fail to be read as text.
-/

/-- Why bytes could not be read as text. -/
inductive DecodeFault where
  /-- The charset is not known by this name. -/
  | unknownCharset (name : Text)
  /-- The name stands for a transformation that yields no text. -/
  | notText (name : Text)
  /-- The name of the charset or of the policy holds a NUL. -/
  | nulInName
  /-- Stray bytes under a policy that does not take them. -/
  | stray (codec : Text) (start : Nat) (bytes : List UInt8) (reason : Text)
  /-- The policy is not known by this name. -/
  | unknownPolicy (name : Text)
  /-- The policy is for encoding only. -/
  | policyForEncoding
  /-- The charset does not take this policy. -/
  | policyRefused (name : Text)
  /-- The byte-order mark is missing. -/
  | noByteOrder (format : Text)
  | punycode (fault : PunycodeFault)
  | domainName (fault : DomainNameFault)
  /-- The charset refuses every text. -/
  | refused
  deriving Repr, DecidableEq

namespace DecodeFault

/-- How many bytes of a name some messages give. -/
def nameSize : Nat := 400

/-- A name as far as a message gives it; a character that is cut is replaced. -/
def clipped
    (name : Text) :
    Text :=
  (Utf8.pieces ((Utf8.encode name).take nameSize)).flatMap fun piece =>
    piece.text?.getD [Text.replacement]

/-- The place of some bytes, as messages give it. -/
def placeText
    (start : Nat) :
    List UInt8 → Text
  | [b] =>
      "byte 0x".toList ++ Text.hexDigits 2 b.toNat ++ " in position ".toList
        ++ Decimal.ofNat start
  | bytes =>
      "bytes in position ".toList ++ Decimal.ofNat start ++ '-'
        :: Decimal.ofNat (start + bytes.length - 1)

/-- What the message says. -/
def message :
    DecodeFault → Text
  | .unknownCharset name => "unknown encoding: ".toList ++ name
  | .notText name =>
      '\'' :: clipped name
        ++ "' is not a text encoding; use codecs.open() to handle arbitrary codecs".toList
  | .nulInName => "embedded null character".toList
  | .stray codec start bytes reason =>
      '\'' :: codec ++ "' codec can't decode ".toList ++ placeText start bytes
        ++ ": ".toList ++ reason
  | .unknownPolicy name => "unknown error handler name '".toList ++ clipped name ++ ['\'']
  | .policyForEncoding =>
      "don't know how to handle UnicodeDecodeError in error callback".toList
  | .policyRefused name => "Unsupported error handling ".toList ++ name
  | .noByteOrder format => format ++ " stream does not start with BOM".toList
  | .punycode fault => fault.message
  | .domainName fault => fault.message
  | .refused => "undefined encoding".toList

end DecodeFault

end LineTally
