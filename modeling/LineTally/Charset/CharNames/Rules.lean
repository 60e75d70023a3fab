import LineTally.Text.Hexadecimal

namespace LineTally.CharNames

/-!
# Names by rule

Names that say what a character is by its code, its number, its dots or its
sounds.
-/

/-- Whether a code lies in one of some inclusive ranges. -/
def inRanges
    (ranges : List (Nat × Nat))
    (code : Nat) :
    Bool :=
  ranges.any fun range => range.1 ≤ code && code ≤ range.2

/-- The code in some ranges whose digits, four or five of them, are given. -/
def codeIn?
    (ranges : List (Nat × Nat))
    (digits : Text) :
    Option Nat := do
  let code ← Text.hexNumber? digits
  if (digits.length = 4 || digits.length = 5) && !digits.any Char.isLower
      && inRanges ranges code then
    some code
  else
    none

/-- The unified ideographs. -/
def ideographs : List (Nat × Nat) :=
  [(0x3400, 0x4DBF), (0x4E00, 0x9FFF), (0x20000, 0x2A6DF), (0x2A700, 0x2B738),
    (0x2B740, 0x2B81D), (0x2B820, 0x2CEA1), (0x2CEB0, 0x2EBE0), (0x30000, 0x3134A)]

/-- What the names of unified ideographs open with. -/
def ideographOpening : Text := "CJK UNIFIED IDEOGRAPH-".toList

/-- Other characters whose names end with their codes, by what the names open with. -/
def coded : List (String × List (Nat × Nat)) :=
  [("CJK COMPATIBILITY IDEOGRAPH-", [(0xF900, 0xFA6D), (0xFA70, 0xFAD9), (0x2F800, 0x2FA1D)]),
    ("KHITAN SMALL SCRIPT CHARACTER-", [(0x18B00, 0x18CD5)]),
    ("NUSHU CHARACTER-", [(0x1B170, 0x1B2FB)])]

/-- The code at the end of a name, which has no more digits than it needs. -/
def coded?
    (name : Text) :
    Option Nat :=
  coded.findSome? fun kind =>
    let opening := kind.1.toList
    if opening.isPrefixOf name && name[opening.length]? ≠ some '0' then
      codeIn? kind.2 (name.drop opening.length)
    else
      none

/-- What the names of Hangul syllables open with. -/
def hangulOpening : Text := "HANGUL SYLLABLE ".toList

/-- The leading consonants of Hangul syllables, in their order. -/
def leads : List String :=
  ["G", "GG", "N", "D", "DD", "R", "M", "B", "BB", "S", "SS", "", "J", "JJ", "C", "K", "T", "P",
    "H"]

/-- The vowels of Hangul syllables, in their order. -/
def vowels : List String :=
  ["A", "AE", "YA", "YAE", "EO", "E", "YEO", "YE", "O", "WA", "WAE", "OE", "YO", "U", "WEO",
    "WE", "WI", "YU", "EU", "YI", "I"]

/-- The trailing consonants of Hangul syllables, in their order; there may be none. -/
def trails : List String :=
  ["", "G", "GG", "GS", "N", "NJ", "NH", "D", "L", "LG", "LM", "LB", "LS", "LT", "LP", "LH",
    "M", "B", "BS", "S", "SS", "NG", "J", "C", "K", "T", "P", "H"]

/-- The place of the longest part that a text starts with, and the rest of the text. -/
def longest?
    (parts : List String)
    (text : Text) :
    Option (Nat × Text) :=
  let fitting := parts.zipIdx.filter fun entry => entry.1.toList.isPrefixOf text
  let longer (a b : String × Nat) : String × Nat := if a.1.length < b.1.length then b else a
  match fitting with
  | [] => none
  | first :: rest =>
      let best := rest.foldl longer first
      some (best.2, text.drop best.1.length)

/-- The code of the Hangul syllable whose name ends with a text. -/
def hangul?
    (text : Text) :
    Option Nat := do
  let (lead, text) ← longest? leads text
  let (vowel, text) ← longest? vowels text
  let (trail, text) ← longest? trails text
  if text.isEmpty then some (0xAC00 + (lead * 21 + vowel) * 28 + trail) else none

/-- What the names of patterns of raised dots open with. -/
def dotsOpening : Text := "BRAILLE PATTERN DOTS-".toList

/-- The code of the pattern of the given dots, each of which is behind the last one. -/
def dots?
    (last pattern : Nat) :
    Text → Option Nat
  | [] => if pattern = 0 then none else some (0x2800 + pattern)
  | digit :: rest =>
      let dot := Decimal.digitValue digit
      if digit.isDigit && last < dot && dot < 9 then
        dots? dot (pattern + 2 ^ (dot - 1)) rest
      else
        none

/-- What the long and the short names of selectors of variants open with. -/
def selectorOpenings : List Text := ["VARIATION SELECTOR-".toList, "VS".toList]

/-- The code of the selector with the given number. -/
def selector?
    (digits : Text) :
    Option Nat :=
  let number := Decimal.valueOf digits
  if !digits.all Char.isDigit || digits.length > 3 || digits.head?.all (· = '0') then
    none
  else if number ≤ 16 then
    some (0xFE00 + (number - 1))
  else if number ≤ 256 then
    some (0xE0100 + (number - 17))
  else
    none

/-- The code that a name in capitals says by a rule. -/
def ruled?
    (name : Text) :
    Option Nat :=
  if dotsOpening.isPrefixOf name then
    dots? 0 0 (name.drop dotsOpening.length)
  else
    (coded? name).or (selectorOpenings.findSome? fun opening =>
      if opening.isPrefixOf name then selector? (name.drop opening.length) else none)

end LineTally.CharNames
