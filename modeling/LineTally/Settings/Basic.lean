import LineTally.Report.Text
import LineTally.Run.Fault

namespace LineTally

/-!
# Settings

The settings of a run, as files and callers give them: values of any kind, which
are looked at only when a run is about to start.  Settings are laid over one
another; a value that is absent leaves the setting below it as it is.
-/

/-- What can be set. -/
inductive Setting where
  | fileTypes
  | ignoreFiles
  | saveDir
  | outputName
  | encoding
  | excludeDirs
  | writeJson
  deriving Repr, DecidableEq

namespace Setting

/-- All settings. -/
def all : List Setting :=
  [.fileTypes, .ignoreFiles, .saveDir, .outputName, .encoding, .excludeDirs, .writeJson]

/-- The name of a setting. -/
def name :
    Setting → Text
  | .fileTypes => "file_types".toList
  | .ignoreFiles => "ignore_files".toList
  | .saveDir => "save_dir".toList
  | .outputName => "output_name".toList
  | .encoding => "encoding".toList
  | .excludeDirs => "exclude_dirs".toList
  | .writeJson => "write_json".toList

/-- The setting with a name. -/
def ofName?
    (name : Text) :
    Option Setting :=
  all.find? fun setting => setting.name = name

/-- Whether a setting is a sequence of names. -/
def isSequence :
    Setting → Bool
  | .fileTypes | .ignoreFiles | .excludeDirs => true
  | .saveDir | .outputName | .encoding | .writeJson => false

/-- The value that a setting holds if it is given a value: lists of names become tuples. -/
def held
    (setting : Setting)
    (value : Value) :
    Value :=
  match value with
  | .list items => if setting.isSequence then .tuple items else .list items
  | value => value

end Setting

/-- The settings of a run, not checked yet. -/
structure Settings where
  fileTypes : Value := .tuple [.string ".m".toList]
  ignoreFiles : Value := .tuple []
  saveDir : Value := .absent
  outputName : Value := .string Report.defaultName
  encoding : Value := .string "utf-8".toList
  excludeDirs : Value := .tuple []
  writeJson : Value := .bool false
  deriving Repr, BEq

namespace Settings

/-- The settings of a run that nothing is said about. -/
def default : Settings := { }

/-- The value of a setting. -/
def get
    (settings : Settings) :
    Setting → Value
  | .fileTypes => settings.fileTypes
  | .ignoreFiles => settings.ignoreFiles
  | .saveDir => settings.saveDir
  | .outputName => settings.outputName
  | .encoding => settings.encoding
  | .excludeDirs => settings.excludeDirs
  | .writeJson => settings.writeJson

/-- The settings with one of them set. -/
def set
    (settings : Settings)
    (setting : Setting)
    (value : Value) :
    Settings :=
  match setting with
  | .fileTypes => { settings with fileTypes := value }
  | .ignoreFiles => { settings with ignoreFiles := value }
  | .saveDir => { settings with saveDir := value }
  | .outputName => { settings with outputName := value }
  | .encoding => { settings with encoding := value }
  | .excludeDirs => { settings with excludeDirs := value }
  | .writeJson => { settings with writeJson := value }

/-- Values to be laid over settings. -/
abbrev Overrides := List (Setting × Value)

/-- The settings with each value that is not absent set, in the order given. -/
def merge
    (settings : Settings)
    (overrides : Overrides) :
    Settings :=
  overrides.foldl
    (fun merged override =>
      if override.2.isAbsent then merged else merged.set override.1 override.2)
    settings

/-- The settings with values laid over them that are given by name. -/
def mergeNamed
    (settings : Settings) :
    List (Text × Value) → Except KindFault Settings
  | [] => .ok settings
  | (name, value) :: rest =>
      if value.isAbsent then
        settings.mergeNamed rest
      else
        match Setting.ofName? name with
        | some setting => (settings.set setting value).mergeNamed rest
        | none => .error (.noSetting name)

/-- The name that the settings themselves go by where values are laid over them. -/
def ownName : Text := "self".toList

/-- The settings with the values of a table laid over them. -/
def mergeValue
    (settings : Settings) :
    Value → Except KindFault Settings
  | .table entries =>
      if entries.any fun entry => entry.1 = ownName then
        .error .settingsGivenTwice
      else
        settings.mergeNamed entries
  | other => .error (.notMapping other.kind)

/-- The keys of a table that are no settings, in ascending order and each one once. -/
def unknownKeys
    (keys : List Text) :
    List Text :=
  (keys.filter fun key => (Setting.ofName? key).isNone).eraseDups.mergeSort Text.precedes

/-- The settings of a table whose keys are all settings; others keep their defaults. -/
def ofKnownEntries
    (entries : List (Text × Value)) :
    Settings :=
  entries.foldl
    (fun settings entry =>
      match Setting.ofName? entry.1 with
      | some setting => settings.set setting (setting.held entry.2)
      | none => settings)
    default

/-- The settings of a table. -/
def ofTable
    (entries : List (Text × Value)) :
    Except Fault Settings :=
  match unknownKeys (entries.map Prod.fst) with
  | [] => .ok (ofKnownEntries entries)
  | names => .error (.rejected (.unknownKeys names))

end Settings

end LineTally
