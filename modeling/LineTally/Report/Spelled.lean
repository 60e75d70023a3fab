import LineTally.Report.Files
import LineTally.Text.Spelling

namespace LineTally

/-!
# Reports of names that are no texts

A record is under the string that was asked for, and this string stands in the text report.
To write a report its file is opened, and by that made or emptied; only then the report is
encoded, which fails if there is a half of a character in one of the names.
-/

/-- The counts of one file, under the string that was asked for. -/
structure SpelledRecord where
  path : Spelling
  counts : Counts
  deriving Repr, DecidableEq

namespace SpelledRecord

/-- A record under a text. -/
def ofRecord
    (record : FileRecord) :
    SpelledRecord :=
  ⟨.ofText record.path, record.counts⟩

/-- The record under a text that a record is, if its string is one. -/
def record?
    (record : SpelledRecord) :
    Option FileRecord :=
  record.path.text?.map fun path => ⟨path, record.counts⟩

end SpelledRecord

/-- The records of a run whose names may be any strings. -/
abbrev SpelledTally := List SpelledRecord

namespace SpelledTally

/-- The records whose names are texts. -/
def named
    (tally : SpelledTally) :
    Tally :=
  tally.filterMap SpelledRecord.record?

/-- The counts of some records, on which their totals and all numbers in reports depend. -/
def unnamed
    (tally : SpelledTally) :
    Tally :=
  tally.map fun record => ⟨[], record.counts⟩

end SpelledTally

namespace Report

/-- The line of one record. -/
def spelledLine
    (record : SpelledRecord) :
    Spelling :=
  record.path ++ .ofText (" : ".toList ++ countsText record.counts)

/-- All lines of the report. -/
def spelledLines
    (tally : SpelledTally) :
    List Spelling :=
  [heading, rule].map .ofText ++ tally.map spelledLine
    ++ (totalLines tally.unnamed.totals).map .ofText

/-- The string of the report. -/
def spelledText
    (tally : SpelledTally) :
    Spelling :=
  (spelledLines tally).flatMap fun line => line ++ [.char '\n']

/-- Why a report of names that may be any strings is not written. -/
inductive SpelledFault where
  /-- For one of the reasons for which any other is not. -/
  | plain (fault : Fault)
  /-- Its file was opened, but it could not be encoded. -/
  | encode (fault : EncodeFault)
  deriving Repr, DecidableEq

namespace SpelledFault

/-- What the message says. -/
def message :
    SpelledFault → Text
  | .plain fault => fault.message
  | .encode fault => fault.message

end SpelledFault

/--
The disk after a report has been put into the file that a path leads to, and why that failed
if it did.  A report that cannot be encoded leaves the file without any bytes.
-/
def writeSpelled
    (disk : Disk)
    (path : Path)
    (report : Spelling) :
    Disk × Option SpelledFault :=
  let encoded := report.encode
  match disk.write path (encoded.toOption.getD []) with
  | .error .nulInPath => (disk, some (.plain (.disk .nulInPath)))
  | .error fault => (disk, some (.plain (.unwritable path.toText fault)))
  | .ok later =>
      match encoded with
      | .ok _ => (later, none)
      | .error fault => (later, some (.encode fault))

end Report

end LineTally
