import LineTally.Line.Basic
import LineTally.Text.Lines

namespace LineTally

/-!
# Tallies

Counts are kept by kind.  A mixed line counts as code and as comment, so the
three kinds may add up to more than the number of lines.  A record is the
counts of one file under the name it was asked for; a tally is the records of
a run in their order, and its totals are the sums of their counts.
-/

/-- Numbers of lines, by what the lines hold. -/
structure Counts where
  code : Int
  comments : Int
  blank : Int
  total : Int
  deriving Repr, DecidableEq

namespace Counts

/-- No lines at all. -/
def zero : Counts := ⟨0, 0, 0, 0⟩

/-- Counts add up kind by kind. -/
def add
    (first second : Counts) :
    Counts where
  code := first.code + second.code
  comments := first.comments + second.comments
  blank := first.blank + second.blank
  total := first.total + second.total

instance : Add Counts := ⟨add⟩

/-- What one line of the given kind adds. -/
def ofKind :
    LineKind → Counts
  | .blank => ⟨0, 0, 1, 1⟩
  | .comment => ⟨0, 1, 0, 1⟩
  | .code => ⟨1, 0, 0, 1⟩
  | .mixed => ⟨1, 1, 0, 1⟩

/-- The sum of a list of counts. -/
def sum :
    List Counts → Counts
  | [] => zero
  | counts :: rest => counts + sum rest

/-- The counts of some lines that are read from the given state on. -/
def ofLines
    (state : ScanState)
    (lines : List Text) :
    Counts :=
  sum ((Line.scan state lines).map fun read => ofKind read.1)

/-- The counts of a whole text. -/
def ofText
    (text : Text) :
    Counts :=
  ofLines .outside text.lines

end Counts

/-- The counts of one file, under the name it was asked for. -/
structure FileRecord where
  path : Text
  counts : Counts
  deriving Repr, DecidableEq

namespace FileRecord

/-- The record of a file that could not be counted. -/
def empty
    (path : Text) :
    FileRecord :=
  ⟨path, .zero⟩

end FileRecord

/-- The records of a run, in the order in which the files were counted. -/
abbrev Tally := List FileRecord

namespace Tally

/-- The totals over all records. -/
def totals
    (tally : Tally) :
    Counts :=
  Counts.sum (tally.map FileRecord.counts)

end Tally

end LineTally
