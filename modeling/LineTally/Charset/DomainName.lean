import LineTally.Charset.Nameprep
import LineTally.Charset.Punycode
import LineTally.Charset.Utf8
import LineTally.Text.NormalForm
import LineTally.Value.Notation

namespace LineTally

/-!
# Internationalised domain names

A name is a list of labels with dots between them.  A label that opens with a
mark is Punycode for a text, and must be what the text is written as again.
Before that a text is prepared, so that texts which differ only in case or in the
way their characters are put together are written as one label.
-/

/-- Why a text is not read as a domain name. -/
inductive DomainNameFault where
  | punycode (fault : PunycodeFault)
  /-- A label has no or too many characters. -/
  | labelSize
  /-- A character may not occur. -/
  | prohibited (c : Char)
  /-- Half a character occurs. -/
  | half (unit : Nat)
  /-- A label has characters of both writing directions. -/
  | mixedDirections
  /-- A label that is written from right to left has other characters at an end. -/
  | directionAtEnds
  /-- A text that is to be written opens with the mark. -/
  | marked
  /-- The text of a label is written as another label. -/
  | otherForm (label written : Text)
  deriving Repr, DecidableEq

namespace DomainNameFault

/-- What the message says. -/
def message :
    DomainNameFault → Text
  | .punycode fault =>
      "decoding with 'punycode' codec failed (UnicodeError: ".toList ++ fault.message ++ [')']
  | .labelSize => "label empty or too long".toList
  | .prohibited c => "Invalid character ".toList ++ Text.quoted [c]
  | .half unit => "Invalid character '\\u".toList ++ Text.hexDigits 4 unit ++ ['\'']
  | .mixedDirections => "Violation of BIDI requirement 2".toList
  | .directionAtEnds => "Violation of BIDI requirement 3".toList
  | .marked => "Label starts with ACE prefix".toList
  | .otherForm label written =>
      "('IDNA does not round-trip', ".toList ++ Text.quotedBytes (Utf8.encode label)
        ++ ", ".toList ++ Text.quotedBytes (Utf8.encode written) ++ [')']

end DomainNameFault

namespace DomainName

/-- What a label of Punycode opens with. -/
def mark : Text := "xn--".toList

/-- Whether all characters of a text are ASCII. -/
def isAscii
    (text : Text) :
    Bool :=
  text.all fun c => c.toNat < 0x80

/-- Checks the writing direction of a text. -/
def checkDirection
    (text : Text) :
    Except DomainNameFault Unit :=
  let isBackward (c : Char) : Bool := Nameprep.within Nameprep.rightToLeft c
  if !text.any isBackward then
    .ok ()
  else if text.any (Nameprep.within Nameprep.leftToRight) then
    .error .mixedDirections
  else if (text.head?.any isBackward) && (text.getLast?.any isBackward) then
    .ok ()
  else
    .error .directionAtEnds

/-- A text in the form in which it is compared, of characters that may all occur. -/
def permitted
    (text : Text) :
    Except DomainNameFault Text :=
  let kept := text.filter fun c => !Nameprep.within Nameprep.omitted c
  let mapped := Text.normalForm (kept.flatMap Nameprep.mapped)
  match mapped.find? (Nameprep.within Nameprep.prohibited) with
  | some c => .error (.prohibited c)
  | none => .ok mapped

/-- The text of some codes prepared for comparison. -/
def prepared
    (codes : List Nat) :
    Except DomainNameFault Text := do
  let isWhole (code : Nat) : Bool := (Text.charOfCode? code).isSome
  let text ← permitted ((codes.takeWhile isWhole).filterMap Text.charOfCode?)
  match codes.find? fun code => !isWhole code with
  | some unit => .error (.half unit)
  | none =>
      checkDirection text
      return text

/-- A label whose size is checked. -/
def sized
    (label : Text) :
    Except DomainNameFault Text :=
  if 0 < label.length && label.length < 64 then .ok label else .error .labelSize

/-- The label that some codes are written as. -/
def writeLabel
    (codes : List Nat) :
    Except DomainNameFault Text := do
  if codes.all (· < 0x80) then
    sized (codes.filterMap Text.charOfCode?)
  else
    let text ← prepared codes
    if isAscii text then
      sized text
    else if mark.isPrefixOf text then
      .error .marked
    else
      sized (mark ++ Punycode.write text)

/-- A label in two parts: what stands before its last hyphen, and the rest. -/
def hyphenParts
    (label : Text) :
    Text × Text :=
  let digits := label.afterLast '-'
  (label.take (label.length - digits.length - 1), digits)

/-- The text that a label of ASCII characters stands for. -/
def readLabel
    (label : Text) :
    Except DomainNameFault Text := do
  if mark.isPrefixOf label then
    let (base, digits) := hyphenParts (label.drop mark.length)
    let codes ← (Punycode.read true base digits).mapError .punycode
    let written ← writeLabel codes
    if label.map Char.toLower = written then
      return codes.filterMap Text.charOfCode?
    else
      .error (.otherForm label written)
  else
    return label

/-- The text that a name of ASCII characters stands for. -/
def read
    (name : Text) :
    Except DomainNameFault Text := do
  let labels ← (name.splitOn '.').mapM readLabel
  return ['.'].intercalate labels

end DomainName

end LineTally
