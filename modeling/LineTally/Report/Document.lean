import LineTally.Json.Printer
import LineTally.Report.Text
import LineTally.Tally.Statistics

namespace LineTally.Report

/-!
# The report document

The same report as a JSON document: the totals, the statistics, and one object
a record.
-/

/-- The entries that hold the four counts. -/
def countEntries
    (counts : Counts) :
    List (Text × Json) :=
  [ ("code".toList, .integer counts.code),
    ("comments".toList, .integer counts.comments),
    ("blank".toList, .integer counts.blank),
    ("total".toList, .integer counts.total) ]

/-- The object of one record. -/
def recordObject
    (record : FileRecord) :
    Json :=
  .object (("path".toList, .string record.path) :: countEntries record.counts)

/-- The object of the totals, with the number of records. -/
def totalsObject
    (tally : Tally) :
    Json :=
  .object (("files".toList, .integer tally.length) :: countEntries tally.totals)

/-- A mean or median as a number. -/
def averageNumber :
    Average → Json
  | .whole value => .integer value
  | .fraction value => .real value

/-- The object of the statistics; a tally without records has an empty one. -/
def statisticsObject :
    Option Statistics → Json
  | none => .object []
  | some statistics =>
      .object
        [ ("mean_total_lines".toList, averageNumber statistics.meanTotal),
          ("median_total_lines".toList, averageNumber statistics.medianTotal),
          ("mean_code_lines".toList, averageNumber statistics.meanCode),
          ("median_code_lines".toList, averageNumber statistics.medianCode),
          ("comment_ratio".toList, .real statistics.commentShare),
          ("largest_file".toList, .string statistics.largestFile),
          ("mean_comment_lines".toList, averageNumber statistics.meanComments) ]

/-- The document of a tally, with the given object in the place of its statistics. -/
def documentWith
    (tally : Tally)
    (statistics : Json) :
    Json :=
  .object
    [ ("summary".toList, totalsObject tally),
      ("statistics".toList, statistics),
      ("files".toList, .array (tally.map recordObject)) ]

/-- The document of a tally. -/
def document
    (tally : Tally) :
    Except NumberFault Json := do
  let statistics ← tally.statistics
  return documentWith tally (statisticsObject statistics)

/-- The text of the document, if its numbers can be written. -/
def documentText
    (tally : Tally) :
    Except NumberFault Text := do
  let document ← document tally
  if isWritable tally then .ok document.toText else .error .written

end LineTally.Report
