import LineTally.Number.Limit
import LineTally.Tally.Basic

namespace LineTally.Report

/-!
# The text report

A table with one line a record, followed by the totals.  Every line, the last
one too, ends with a line feed.  A report is written only if each of its numbers
can be.
-/

/-- The name of the file that holds a report, unless another is asked for. -/
def defaultName : Text := "lineCount.txt".toList

/-- The heading of the table. -/
def heading : Text := "File : Code | Comments | Blank | Total".toList

/-- The line below the heading. -/
def rule : Text := List.replicate 54 '-'

/-- The four counts of a record, between bars. -/
def countsText
    (counts : Counts) :
    Text :=
  let bar := " | ".toList
  bar.intercalate
    ([counts.code, counts.comments, counts.blank, counts.total].map Decimal.ofInt)

/-- The line of one record. -/
def recordLine
    (record : FileRecord) :
    Text :=
  record.path ++ " : ".toList ++ countsText record.counts

/-- The lines below the table. -/
def totalLines
    (totals : Counts) :
    List Text :=
  [ [],
    "Grand Totals:".toList,
    "Code     : ".toList ++ Decimal.ofInt totals.code,
    "Comments : ".toList ++ Decimal.ofInt totals.comments,
    "Blank    : ".toList ++ Decimal.ofInt totals.blank,
    "Total    : ".toList ++ Decimal.ofInt totals.total ]

/-- All lines of the report. -/
def textLines
    (tally : Tally) :
    List Text :=
  heading :: rule :: tally.map recordLine ++ totalLines tally.totals

/-- The text of the report. -/
def text
    (tally : Tally) :
    Text :=
  (textLines tally).flatMap fun line => line ++ ['\n']

/-- Whether all counts of a tally and their totals can be written. -/
def isWritable
    (tally : Tally) :
    Bool :=
  (tally.totals :: tally.map FileRecord.counts).all fun counts =>
    [counts.code, counts.comments, counts.blank, counts.total].all Decimal.isWritable

/-- The text of the report, if its numbers can be written. -/
def writtenText
    (tally : Tally) :
    Except NumberFault Text :=
  if isWritable tally then .ok (text tally) else .error .written

end LineTally.Report
