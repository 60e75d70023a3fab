import LineTally.Disk.Basic
import LineTally.Run.Journal
import LineTally.Settings.Basic
import LineTally.Text.Lines
import LineTally.Toml.Reader
import LineTally.Value.Order

namespace LineTally.Settings

/-!
# Settings files

A settings file is a TOML document in UTF-8.  The settings are in its table
`tool.linecount`, so that they can share a file with others, or else at its top
level.  Whatever stands in their place is taken for a table only after it has
been looked at as a collection of keys.
-/

/-- The key of the table that the table of settings is in. -/
def outerKey : Text := "tool".toList

/-- The key of the table of settings. -/
def tableKey : Text := "linecount".toList

/-- What stands in the place of the settings in a document. -/
def select
    (document : List (Text × Value)) :
    Except KindFault Value :=
  let topLevel := Value.table (document.filter fun entry => entry.1 ≠ outerKey)
  match document.lookup outerKey with
  | none => .ok topLevel
  | some (.table tools) => .ok ((tools.lookup tableKey).getD topLevel)
  | some other => .error (.noAttribute other.kind "get".toList)

/-- Whether a value is the name of a setting. -/
def isSettingName
    (value : Value) :
    Bool :=
  match value.text? with
  | some name => (Setting.ofName? name).isSome
  | none => false

/-- What is wrong with some items that are no names of settings, the least one first. -/
def faultOfItems :
    List Value → Option Fault
  | [] => none
  | first :: rest =>
      match Value.orderFault? (first :: rest).eraseDups, (first :: rest).mapM Value.text? with
      | some fault, _ => some (.kind fault)
      | none, some keys => some (.rejected (.unknownKeys (unknownKeys keys)))
      | none, none => some (.kind (.itemNotText (first.least rest).kind))

/-- What is wrong with a value in the place of a table of settings. -/
def faultOfOther
    (value : Value) :
    Fault :=
  match value.members with
  | .error fault => .kind fault
  | .ok items =>
      match faultOfItems (items.filter fun item => !isSettingName item) with
      | some fault => fault
      | none => .kind (.noAttribute value.kind "items".toList)

/-- The settings of a value in the place of a table of settings. -/
def ofValue :
    Value → Except Fault Settings
  | .table entries => ofTable entries
  | value => .error (faultOfOther value)

/-- The document in the file that a path leads to, as a reader reads it. -/
def readDocumentBy
    (reader : Toml.Reader)
    (disk : Disk)
    (path : Path) :
    Except Fault (List (Text × Value)) :=
  let unloadable cause := Fault.rejected (.unloadable path.toText cause)
  match disk.read path with
  | .error .nulInPath => .error (.disk .nulInPath)
  | .error fault => .error (unloadable (.disk fault))
  | .ok content =>
      match Charset.utf8.decode .strict content with
      | .error fault => .error (.decode fault)
      | .ok decoded =>
          let text := decoded.unifyLineEnds
          match Toml.readWithin reader.room text with
          | .ok document => .ok document
          | .error .malformed => .error (unloadable (.malformed (reader.words text)))
          | .error (.number fault) => .error (.number fault)
          | .error .tooDeep => .error .tooDeep

/-- The settings in the file that a path leads to, as a reader reads it. -/
def loadBy
    (reader : Toml.Reader)
    (disk : Disk)
    (path : Path) :
    Journal Settings := do
  let document ← Journal.ofExcept (readDocumentBy reader disk path)
  let found ← Journal.ofKind (select document)
  Journal.note .info .settings ("Loaded configuration from ".toList ++ path.toText)
  Journal.ofExcept (ofValue found)

/-- The document in the file that a path leads to. -/
abbrev readDocument
    (disk : Disk)
    (path : Path) :
    Except Fault (List (Text × Value)) :=
  readDocumentBy Toml.usualReader disk path

/-- The settings in the file that a path leads to. -/
abbrev load
    (disk : Disk)
    (path : Path) :
    Journal Settings :=
  loadBy Toml.usualReader disk path

end LineTally.Settings
