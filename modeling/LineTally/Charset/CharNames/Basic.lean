import LineTally.Text.Basic

namespace LineTally.CharNames

/-!
# Names in order

The names of neighbouring characters differ in few words.  A run of names is
written in lines with commas in them; what stands between two commas says in what
words a name differs from the name before it.
-/

/-- The names of consecutive characters. -/
structure NameRun where
  /-- The code of the first character. -/
  first : Nat
  /-- What all the names open with. -/
  opening : String
  /--
  The rest of each name, in lines.

  A small letter in front stands for words at the start of the name before, one
  word for `a`, and a small letter behind for words at its end.  There is nothing
  for a character without a name.
  -/
  lines : List String

/-- The number of words that a small letter stands for. -/
def sharedCount
    (c : Char) :
    Nat :=
  if c.isLower then c.toNat - 'a'.toNat + 1 else 0

/-- The words of a name, given the words of the name before. -/
def wordsAfter
    (before : List Text)
    (rest : Text) :
    List Text :=
  let start := (rest.head?.map sharedCount).getD 0
  let rest := if start = 0 then rest else rest.drop 1
  let ending := (rest.getLast?.map sharedCount).getD 0
  let rest := if ending = 0 then rest else rest.dropLast
  before.take start ++ (if rest.isEmpty then [] else rest.splitOn ' ')
    ++ before.drop (before.length - ending)

/-- The place of a name among others, counted from the given one on. -/
def placeFrom?
    (name : List Text)
    (before : List Text)
    (place : Nat) :
    List Text → Option Nat
  | [] => none
  | rest :: others =>
      if rest.isEmpty then
        placeFrom? name before (place + 1) others
      else
        let words := wordsAfter before rest
        if words = name then some place else placeFrom? name words (place + 1) others

/-- The code of the character with a name in a run. -/
def NameRun.code?
    (run : NameRun)
    (name : Text) :
    Option Nat :=
  let opening := run.opening.toList
  if opening.isPrefixOf name then
    placeFrom? ((name.drop opening.length).splitOn ' ') [] run.first
      (run.lines.flatMap fun line => line.toList.splitOn ',')
  else
    none

end LineTally.CharNames
