import LineTally.Disk.Basic
import LineTally.Run.Journal

namespace LineTally

/-!
# Counting files

A file that is not there or cannot be read gets a record without lines and a
warning.  A file with a NUL near its start counts as binary and gets a record
without lines, too, but no warning.  Only a fault of the program's own kind is
turned into a warning; any other ends the counting.
-/

namespace Counting

/-- How many bytes are looked at to see whether a file is binary. -/
def sampleSize : Nat := 1024

/-- Whether some content has a NUL in its sample, which is all of it without a size. -/
def hasNul
    (size : Option Nat)
    (content : List UInt8) :
    Bool :=
  match size with
  | some size => (content.take size).any (· = 0)
  | none => content.any (· = 0)

/-- Whether there is a NUL among the first bytes of a file, or among all without a size. -/
def isBinary
    (disk : Disk)
    (path : Path)
    (size : Option Nat) :
    Except DiskFault Bool :=
  match disk.read path with
  | .ok content => .ok (hasNul size content)
  | .error .nulInPath => .error .nulInPath
  | .error (.refused _ _) => .ok false

/-- Whether a file is binary by a sample whose size is given by a value; only a file has one. -/
def isBinaryByValue
    (disk : Disk)
    (path : Path)
    (size : Value) :
    Except Fault Bool :=
  match disk.read path with
  | .ok content =>
      match Sample.sizeOfValue size with
      | .ok size => .ok (hasNul size content)
      | .error fault => .error (.sample fault)
  | .error .nulInPath => .error (.disk .nulInPath)
  | .error (.refused _ _) => .ok false

/-- Whether a fault in decoding makes a file unreadable, and is not passed on as it is. -/
def isUnreadable :
    DecodeFault → Bool
  | .unknownCharset _ | .notText _ | .unknownPolicy _ => true
  | _ => false

/-- The text of some bytes of the file with the given path. -/
def textOf
    (charset policy path : Text)
    (content : List UInt8) :
    Except Fault Text :=
  match Charset.decodeNamed charset policy content with
  | .ok decoded => .ok decoded.unifyLineEnds
  | .error fault =>
      if isUnreadable fault then
        .error (.unreadable path (.decode fault))
      else
        .error (.decode fault)

/-- The bytes of a file that is to be read as text; a binary one is passed over. -/
def textBytes?
    (disk : Disk)
    (path : Path) :
    Journal (Option (List UInt8)) := do
  if !(← Journal.ofDisk (disk.isFile path)) then
    Journal.fail (.notFile path.toText)
  else if ← Journal.ofDisk (isBinary disk path (some sampleSize)) then
    Journal.note .debug .disk ("Skipping binary content in ".toList ++ path.toText)
    return none
  else
    match disk.read path with
    | .ok content => return some content
    | .error .nulInPath => Journal.fail (.disk .nulInPath)
    | .error fault => Journal.fail (.unreadable path.toText (.disk fault))

/-- The text of a file, empty if the file is binary. -/
def readText
    (disk : Disk)
    (charset policy : Text)
    (path : Path) :
    Journal Text := do
  match ← textBytes? disk path with
  | none => return []
  | some content => Journal.ofExcept (textOf charset policy path.toText content)

/-- The name that a value gives for an argument of reading, or the given one if it is absent. -/
def openArgument
    (argument absent : Text)
    (value : Value) :
    Except Fault Text :=
  match value with
  | .absent => .ok absent
  | .string name =>
      if name.any (· = '\x00') then .error (.decode .nulInName) else .ok name
  | other => .error (.kind (.notOpenArgument argument other.kind))

/-- The text of a file, with charset and policy given by values. -/
def readTextByValues
    (disk : Disk)
    (charset policy : Value)
    (path : Path) :
    Journal Text := do
  match ← textBytes? disk path with
  | none => return []
  | some content =>
      let charset ← Journal.ofExcept (openArgument "encoding".toList Charset.localName charset)
      let policy ← Journal.ofExcept (openArgument "errors".toList "strict".toList policy)
      Journal.ofExcept (textOf charset policy path.toText content)

/-- Counts as the notes give them. -/
def countsText
    (counts : Counts) :
    Text :=
  "LineCounts(code=".toList ++ Decimal.ofInt counts.code
    ++ ", comments=".toList ++ Decimal.ofInt counts.comments
    ++ ", blank=".toList ++ Decimal.ofInt counts.blank
    ++ ", total=".toList ++ Decimal.ofInt counts.total ++ [')']

/-- The record of one file, given how its text is read. -/
def countFileBy
    (disk : Disk)
    (read : Path → Journal Text)
    (reference : FileRef) :
    Journal FileRecord := do
  let name := reference.toText
  let path := Path.ofText name
  if !(← Journal.ofDisk (disk.isFile path)) then
    Journal.note .warning .counting
      ("File \"".toList ++ name ++ "\" not found. Counts set to zero.".toList)
    return .empty name
  else
    match ← Journal.attempt (read path) with
    | .ok content =>
        let counts := Counts.ofText content
        Journal.note .debug .counting (name ++ ": ".toList ++ countsText counts)
        return ⟨name, counts⟩
    | .error fault =>
        if fault.isOwn then
          Journal.note .warning .counting
            ("Unable to open file \"".toList ++ name ++ "\". Counts set to zero. (".toList
              ++ fault.message ++ [')'])
          return .empty name
        else
          Journal.fail fault

/-- What becomes of stray bytes in files that are counted. -/
def strayPolicy : Text := "ignore".toList

/-- The record of one file. -/
def countFile
    (disk : Disk)
    (charset : Text)
    (reference : FileRef) :
    Journal FileRecord :=
  countFileBy disk (readText disk charset strayPolicy) reference

/-- The records of some files, in their order. -/
def countFiles
    (disk : Disk)
    (charset : Text) :
    List FileRef → Journal Tally
  | [] => Journal.pure []
  | reference :: rest => do
      let record ← countFile disk charset reference
      let records ← countFiles disk charset rest
      return record :: records

/-- The record of a file that a value refers to, in a charset that is given by a value. -/
def countValue
    (disk : Disk)
    (charset value : Value) :
    Journal FileRecord := do
  let reference ← Journal.ofKind value.fileRef
  countFileBy disk (readTextByValues disk charset (.string strayPolicy)) reference

/-- The records of the files that some values refer to, in their order. -/
def countValues
    (disk : Disk)
    (charset : Value) :
    List Value → Journal Tally
  | [] => Journal.pure []
  | value :: rest => do
      let record ← countValue disk charset value
      let records ← countValues disk charset rest
      return record :: records

end Counting

end LineTally
