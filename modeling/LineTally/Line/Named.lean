import LineTally.Line.Basic
import LineTally.Run.Fault
import LineTally.Value.Notation

namespace LineTally

/-!
# Names of kinds and states

Callers give the state that a line is read in by its name, and get kinds and
states back by theirs.
-/

namespace LineKind

/-- The name of a kind of line. -/
def name :
    LineKind → Text
  | .blank => "blank".toList
  | .comment => "comment".toList
  | .code => "code".toList
  | .mixed => "mixed".toList

end LineKind

namespace ScanState

/-- The name of a state. -/
def name :
    ScanState → Text
  | .outside => "normal".toList
  | .inBlock => "in_block_comment".toList

/-- The state with a name. -/
def ofName?
    (given : Text) :
    Option ScanState :=
  if given = outside.name then
    some outside
  else if given = inBlock.name then
    some inBlock
  else
    none

/-- The state that a value names. -/
def ofValue
    (value : Value) :
    Except Fault ScanState :=
  match value.text?.bind ofName? with
  | some state => .ok state
  | none => .error (.unknownState value.shown)

end ScanState

end LineTally
