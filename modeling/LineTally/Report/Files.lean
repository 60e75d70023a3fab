import LineTally.Disk.Basic
import LineTally.Report.Document
import LineTally.Report.Text
import LineTally.Run.Journal

namespace LineTally.Report

/-!
# Report files

A report goes into a file of the chosen name, read as a path from within the
chosen folder.  The document goes beside the text, under the same name with
another suffix.
-/

/-- A disk with a file written, and the path of the file. -/
structure Written where
  disk : Disk
  path : Path
  deriving Repr

/-- The path of the text report. -/
def textPath
    (folder : Path)
    (name : Text) :
    Path :=
  folder.join (.ofText name)

/-- The path of the document, if the path of the text report has a name. -/
def documentPath
    (folder : Path)
    (name : Text) :
    Except Fault Path :=
  let path := textPath folder name
  match path.withSuffix? ".json".toList with
  | some path => .ok path
  | none => .error (.unnamed path.toText)

/-- The note that a report has been written. -/
def created
    (path : Path) :
    Note :=
  ⟨.info, .report, path.name ++ " created.".toList⟩

/--
The disk with a report in the file that a path leads to.  A text can always be encoded, so
the report is there as a whole once its file has been opened.
-/
def write
    (disk : Disk)
    (path : Path)
    (content : Text) :
    Journal Written :=
  match disk.write path (Utf8.encode content) with
  | .ok disk => ⟨[created path], .ok ⟨disk, path⟩⟩
  | .error .nulInPath => Journal.fail (.disk .nulInPath)
  | .error fault => Journal.fail (.unwritable path.toText fault)

/-- The disk with the text report of a tally. -/
def writeText
    (disk : Disk)
    (tally : Tally)
    (folder : Path)
    (name : Text) :
    Journal Written := do
  let content ← Journal.ofExcept ((writtenText tally).mapError .number)
  write disk (textPath folder name) content

/-- The disk with the report document of a tally. -/
def writeDocument
    (disk : Disk)
    (tally : Tally)
    (folder : Path)
    (name : Text) :
    Journal Written := do
  let path ← Journal.ofExcept (documentPath folder name)
  let content ← Journal.ofExcept ((documentText tally).mapError .number)
  write disk path content

end LineTally.Report
