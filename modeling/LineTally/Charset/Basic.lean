import LineTally.Charset.Multibyte
import LineTally.Charset.Names
import LineTally.Charset.Tables

namespace LineTally

/-!
# Charsets

A charset is found by its name.  Some known names stand for transformations of
bytes that yield no text.
-/

/-- A way to encode text as bytes, as far as decoding needs to tell them apart. -/
inductive Charset where
  | utf8
  /-- UTF-8 whose byte-order mark, if there is one, is not part of the text. -/
  | utf8Signed
  /-- Two bytes a unit; the byte order comes from a mark at the start. -/
  | utf16
  | utf16Low
  | utf16High
  /-- Four bytes a unit; the byte order comes from a mark at the start. -/
  | utf32
  | utf32Low
  | utf32High
  | ascii
  | latin1
  /-- ASCII below byte 128, and the table from there on. -/
  | upperHalf (table : Text)
  /-- One character for each byte. -/
  | wholeTable (table : Text)
  /-- Several bytes a character from byte 128 on. -/
  | multibyte (name : Text) (means : Multibyte)
  /-- ASCII text that is marked by shift bytes or escapes to stand for other characters. -/
  | designated (name : Text) (means : Iso2022)
  /-- ASCII text with Chinese between tildes and braces. -/
  | hz
  | utf7
  /-- Text with escapes in the full notation. -/
  | escapes
  /-- Text with escapes for codes only. -/
  | rawEscapes
  | punycode
  /-- International domain names, read strictly or not at all. -/
  | domainNames
  /-- The charset that refuses every text. -/
  | refusing
  /-- A transformation of bytes that yields no text. -/
  | transform
  deriving Repr, DecidableEq

namespace Charset

/-- The charsets that need no table, by their registered names. -/
def plain : List (String × Charset) :=
  [ ("utf_8", .utf8), ("utf_8_sig", .utf8Signed), ("utf_16", .utf16),
    ("utf_16_le", .utf16Low), ("utf_16_be", .utf16High), ("utf_32", .utf32),
    ("utf_32_le", .utf32Low), ("utf_32_be", .utf32High), ("ascii", .ascii),
    ("latin_1", .latin1), ("iso8859_1", .latin1), ("charmap", .latin1),
    ("idna", .domainNames), ("punycode", .punycode), ("hz", .hz), ("utf_7", .utf7),
    ("unicode_escape", .escapes), ("raw_unicode_escape", .rawEscapes),
    ("undefined", .refusing), ("base64_codec", .transform),
    ("bz2_codec", .transform), ("hex_codec", .transform), ("quopri_codec", .transform),
    ("rot_13", .transform), ("uu_codec", .transform), ("zlib_codec", .transform) ]

/-- The value listed under a name. -/
def listed?
    {α : Type}
    (name : Text)
    (entries : List (String × α)) :
    Option α :=
  (entries.find? fun entry => entry.1.toList = name).map Prod.snd

/-- The charset with a registered name. -/
def ofRegisteredName
    (name : Text) :
    Charset :=
  let found :=
    listed? name plain
      <|> (listed? name upperHalves).map (fun table => .upperHalf table.toList)
      <|> (listed? name wholeTables).map (fun table => .wholeTable table.toList)
      <|> (listed? name Iso2022.named).map (.designated name)
      <|> (listed? name Multibyte.named).map (.multibyte name)
  -- Every name that is registered is in one of the lists.
  found.getD .ascii

/-- The charset that a name stands for, if it is known. -/
def ofName?
    (name : Text) :
    Option Charset :=
  (registeredName? name).map ofRegisteredName

/-- The name of the charset of the surroundings, which is UTF-8, for reading only. -/
def localName : Text := "locale".toList

end Charset

end LineTally
