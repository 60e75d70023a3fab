import LineTally.Number.Double
import LineTally.Number.Limit
import LineTally.Tally.Basic

namespace LineTally

/-!
# Statistics of a tally

Means and medians of the columns of a tally that has records, the share of
comment lines in all lines, and the file with the most lines.  Sums are exact;
a result that is not whole is the double nearest to the exact quotient.
-/

/-- A mean or median: a whole number if it came out even, else a double. -/
inductive Average where
  | whole (value : Int)
  | fraction (value : Double)
  deriving Repr, DecidableEq

/-- The double nearest to a quotient. -/
def Double.divide
    (numerator denominator : Int) :
    Except NumberFault Double :=
  match divide? numerator denominator with
  | some quotient => .ok quotient
  | none => .error .quotient

namespace Average

/-- The arithmetic mean of a column with entries: whole if their number divides the sum. -/
def mean
    (column : List Int) :
    Except NumberFault Average :=
  let count : Int := column.length
  let sum := column.foldl (· + ·) 0
  if sum % count = 0 then
    .ok (.whole (sum / count))
  else
    (Double.divide sum count).map .fraction

/-- The middle entry of a column in order, or half the sum of the middle two. -/
def median
    (column : List Int) :
    Except NumberFault Average :=
  let sorted := column.mergeSort
  let middle := sorted.length / 2
  if sorted.length % 2 = 1 then
    .ok (.whole (sorted.getD middle 0))
  else
    (Double.divide (sorted.getD (middle - 1) 0 + sorted.getD middle 0) 2).map .fraction

end Average

/-- What a report says about a tally besides its totals. -/
structure Statistics where
  meanTotal : Average
  medianTotal : Average
  meanCode : Average
  medianCode : Average
  commentShare : Double
  largestFile : Text
  meanComments : Average
  deriving Repr, DecidableEq

namespace Tally

/-- The entries of one column, in the order of the records. -/
def column
    (tally : Tally)
    (entry : Counts → Int) :
    List Int :=
  tally.map fun record => entry record.counts

/-- The share of comment lines in all lines, and zero if there are no lines. -/
def commentShare
    (tally : Tally) :
    Except NumberFault Double :=
  if tally.totals.total = 0 then
    .ok (.zero false)
  else
    Double.divide tally.totals.comments tally.totals.total

/-- The earliest of the records with the most lines. -/
def largest
    (first : FileRecord) :
    Tally → FileRecord
  | [] => first
  | next :: rest =>
      largest (if first.counts.total < next.counts.total then next else first) rest

/-- The statistics of a tally, if it has records. -/
def statistics :
    Tally → Except NumberFault (Option Statistics)
  | [] => .ok none
  | first :: rest => do
      let tally := first :: rest
      let meanTotal ← Average.mean (column tally Counts.total)
      let medianTotal ← Average.median (column tally Counts.total)
      let meanCode ← Average.mean (column tally Counts.code)
      let medianCode ← Average.median (column tally Counts.code)
      let commentShare ← commentShare tally
      let meanComments ← Average.mean (column tally Counts.comments)
      return some
        { meanTotal
          medianTotal
          meanCode
          medianCode
          commentShare
          largestFile := (largest first rest).path
          meanComments }

end Tally

end LineTally
