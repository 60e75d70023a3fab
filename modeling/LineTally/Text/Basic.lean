namespace LineTally

/-!
# Text

Text is handled as the list of its characters, so that every operation on it
is an operation on lists.  This module holds characters by their codes, the blank
characters, which lie at the ends of a line without belonging to it, and the few
operations on text that the list library does not have under one name.  A string in which
halves of characters stand alone is no text but a spelling.
-/

/-- A text, as the list of its characters. -/
abbrev Text := List Char

namespace Text

/-- The character with a code point, if there is one. -/
def charOfCode?
    (code : Nat) :
    Option Char :=
  if valid : code.isValidChar then some (Char.ofNatAux code valid) else none

/-- The character that stands for what is none. -/
def replacement : Char := '\ufffd'

/-- The code points that count as blank at the ends of a line, as inclusive ranges. -/
def blankRanges : List (Nat × Nat) :=
  [(0x09, 0x0D), (0x1C, 0x20), (0x85, 0x85), (0xA0, 0xA0), (0x1680, 0x1680),
    (0x2000, 0x200A), (0x2028, 0x2029), (0x202F, 0x202F), (0x205F, 0x205F),
    (0x3000, 0x3000)]

/-- A blank character: a separator of words or lines. -/
def isBlank
    (c : Char) :
    Bool :=
  blankRanges.any fun range =>
    range.1 ≤ c.toNat && c.toNat ≤ range.2

/-- The text without the blank characters at its end. -/
def trimRight :
    Text → Text
  | [] => []
  | c :: rest =>
      match trimRight rest with
      | [] => if isBlank c then [] else [c]
      | kept => c :: kept

/-- The text without the blank characters at both of its ends. -/
def trim
    (text : Text) :
    Text :=
  trimRight (text.dropWhile isBlank)

/-- Whether the text occurs in another one as a run of consecutive characters. -/
def occursIn
    (text : Text) :
    Text → Bool
  | [] => text.isEmpty
  | c :: rest => text.isPrefixOf (c :: rest) || occursIn text rest

/-- Whether the text starts with one of the given openings. -/
def startsWithAny
    (openings : List Text)
    (text : Text) :
    Bool :=
  openings.any fun opening => opening.isPrefixOf text

/-- The order of texts by the code points of their characters. -/
def precedes
    (first second : Text) :
    Bool :=
  match first, second with
  | [], _ => true
  | _ :: _, [] => false
  | a :: first, b :: second =>
      a.toNat < b.toNat || (a.toNat = b.toNat && precedes first second)

/-- The part before the first occurrence of `mark`, and the part after it if it occurs. -/
def splitFirst
    (mark : Char) :
    Text → Text × Option Text
  | [] => ([], none)
  | c :: rest =>
      if c = mark then
        ([], some rest)
      else
        let (before, after) := splitFirst mark rest
        (c :: before, after)

/-- The part after the last occurrence of `mark`, or the whole text if there is none. -/
def afterLast
    (mark : Char)
    (text : Text) :
    Text :=
  (text.reverse.takeWhile (· ≠ mark)).reverse

end Text

end LineTally
