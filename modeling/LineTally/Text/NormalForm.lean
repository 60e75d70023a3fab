import LineTally.Text.NormalForm.CombiningClass
import LineTally.Text.NormalForm.Composition

namespace LineTally.Text

/-!
# Normal form

Texts that differ only in how their characters are put together have one normal
form: every character is taken apart, the marks behind a character are put into
the order of their classes, and what belongs together is composed again.
-/

/-- A character with its class. -/
abbrev Classed := Nat × Char

/-- A character put before others, behind those marks that come before it in order. -/
def insertMark
    (mark : Classed) :
    List Classed → List Classed
  | [] => [mark]
  | next :: rest =>
      if 0 < next.1 && next.1 < mark.1 then
        next :: insertMark mark rest
      else
        mark :: next :: rest

/-- The characters of a text taken apart, with the marks in order. -/
def takenApart
    (text : Text) :
    List Classed :=
  ((text.flatMap decompose).map fun c => (combiningClass c, c)).foldr insertMark []

/--
Characters composed with the one that they follow.

The marks that could not be composed with it so far are given last first.  A mark
is composed only if none of the same class stands before it.
-/
def composeBehind
    (base : Char)
    (marks : List Classed) :
    List Classed → Text
  | [] => base :: (marks.map Prod.snd).reverse
  | next :: rest =>
      let isNear := marks.head?.all fun mark => mark.1 < next.1
      match if isNear then composed? base next.2 else none with
      | some whole => composeBehind whole marks rest
      | none =>
          if next.1 = 0 then
            base :: (marks.map Prod.snd).reverse ++ composeBehind next.2 [] rest
          else
            composeBehind base (next :: marks) rest

/-- Characters composed with one another; marks that follow nothing stay alone. -/
def compose :
    List Classed → Text
  | [] => []
  | first :: rest =>
      if first.1 = 0 then composeBehind first.2 [] rest else first.2 :: compose rest

/-- The normal form of a text. -/
def normalForm
    (text : Text) :
    Text :=
  compose (takenApart text)

end LineTally.Text
