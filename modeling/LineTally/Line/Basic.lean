import LineTally.Text.Basic

namespace LineTally

/-!
# Lines of a program text

A line is read together with the state that the lines before it left behind:
either the scan stands outside block comments or inside one.  Reading a line
gives its kind and the state for the next line.  The rules are tried in order
and the first that applies decides.

Both styles of block comment share one state, which only `*/` clears.
-/

/-- Where the scan stands when a line begins. -/
inductive ScanState where
  /-- Outside every block comment. -/
  | outside
  /-- Inside a block comment that an earlier line opened. -/
  | inBlock
  deriving Repr, DecidableEq

/-- What a line holds. -/
inductive LineKind where
  /-- Nothing but blank characters. -/
  | blank
  /-- Comment only. -/
  | comment
  /-- Program text only. -/
  | code
  /-- Program text with a comment after it. -/
  | mixed
  deriving Repr, DecidableEq

namespace Marker

/-- Starts a comment that ends with the line. -/
def percent : Text := "%".toList

/-- Starts a comment that ends with the line. -/
def slashes : Text := "//".toList

/-- Opens a block comment. -/
def blockOpen : Text := "/*".toList

/-- Closes a block comment. -/
def blockClose : Text := "*/".toList

/-- Opens a block comment of the percent style. -/
def braceOpen : Text := ['%', '\x7b']

/-- Closes, on the line that opens it, a block comment of the percent style. -/
def braceClose : Text := ['%', '\x7d']

/-- The two markers of comments that end with the line. -/
def lineComment : List Text := [percent, slashes]

end Marker

namespace ScanState

/-- The state after a line with an open block comment that `closing` would close. -/
def afterBlock
    (closing trimmed : Text) :
    ScanState :=
  if closing.occursIn trimmed then outside else inBlock

end ScanState

namespace Line

/-- The kind of a line without blank ends, and the state for the next line. -/
def classifyTrimmed
    (state : ScanState)
    (trimmed : Text) :
    LineKind × ScanState :=
  if trimmed.isEmpty then
    (.blank, state)
  else if Text.startsWithAny Marker.lineComment trimmed then
    (.comment, state)
  else if Marker.blockOpen.occursIn trimmed then
    (.comment, .afterBlock Marker.blockClose trimmed)
  else if state = .inBlock then
    (.comment, .afterBlock Marker.blockClose trimmed)
  else if Marker.braceOpen.occursIn trimmed then
    (.comment, .afterBlock Marker.braceClose trimmed)
  else if Marker.lineComment.any (Text.occursIn · trimmed) then
    (.mixed, state)
  else
    (.code, state)

/-- The kind of a line and the state for the next line; blank ends do not matter. -/
def classify
    (state : ScanState)
    (line : Text) :
    LineKind × ScanState :=
  classifyTrimmed state line.trim

/-- The kind and the following state of each line, the state carried from line to line. -/
def scan
    (state : ScanState) :
    List Text → List (LineKind × ScanState)
  | [] => []
  | line :: rest =>
      let read := classify state line
      read :: scan read.2 rest

/-- The state after all of the lines. -/
def stateAfter
    (state : ScanState) :
    List Text → ScanState
  | [] => state
  | line :: rest => stateAfter (classify state line).2 rest

end Line

end LineTally
