import LineTally.Charset.CharNames.Aliases
import LineTally.Charset.CharNames.Alphabets
import LineTally.Charset.CharNames.Antiquity
import LineTally.Charset.CharNames.Pictures
import LineTally.Charset.CharNames.Rules
import LineTally.Charset.CharNames.Signs
import LineTally.Charset.CharNames.Syllables

namespace LineTally.CharNames

/-!
# Names of characters

The names of the Unicode character database, version 14, and the other names
that it gives.  Case does not matter in these, except that the names of unified
ideographs and of Hangul syllables are written in capitals.
-/

/-- The names that follow no rule. -/
def runs : List NameRun :=
  alphabets ++ signs ++ syllables ++ antiquity ++ pictures

/-- The code of the character with a name or another name in a table. -/
def listed?
    (name : Text) :
    Option Nat :=
  (runs.findSome? fun run => run.code? name).or
    ((aliases.find? fun entry => entry.1.toList = name).map Prod.snd)

/-- The character with a name. -/
def char?
    (name : Text) :
    Option Char :=
  let found :=
    if hangulOpening.isPrefixOf name then
      hangul? (name.drop hangulOpening.length)
    else if ideographOpening.isPrefixOf name then
      codeIn? ideographs (name.drop ideographOpening.length)
    else
      let name := name.map Char.toUpper
      (ruled? name).or (listed? name)
  found.map Char.ofNat

end LineTally.CharNames
