import LineTally.Disk.Basic
import LineTally.Run.Journal
import LineTally.Settings.Basic

namespace LineTally

/-!
# Plans

Settings that have been checked.  Checking looks at the disk and at the list of
charsets first; what it finds there are the facts.  From settings and facts
follow all complaints, and, if there is none, the plan of a run.
-/

/-- The settings of a run, checked and with their kinds known. -/
structure Plan where
  extensions : List Text
  ignored : List Text
  excluded : List Text
  folder : Path
  outputName : Text
  charset : Text
  writeDocument : Bool
  deriving Repr, DecidableEq

namespace Settings

/-- What a check has to find out about settings from outside them. -/
structure Facts where
  /-- Whether the folder of the reports is there. -/
  folderExists : Bool
  /-- Whether the charset is known. -/
  charsetKnown : Bool
  deriving Repr, DecidableEq

/-- The folder of the reports: the working folder, unless one is set. -/
def saveFolder
    (settings : Settings)
    (disk : Disk) :
    Except KindFault Path :=
  if settings.saveDir.isAbsent then
    .ok ⟨.root, disk.here⟩
  else
    settings.saveDir.fileRef.map FileRef.toPath

/-- Whether a charset is known; a name with a NUL is not even looked up. -/
def isKnownCharset
    (name : Text) :
    Except DecodeFault Bool :=
  if name.any (· = '\x00') then
    .error .nulInName
  else
    .ok (Charset.ofName? name).isSome

/-- What is found out about settings. -/
def facts
    (settings : Settings)
    (disk : Disk) :
    Except Fault Facts := do
  let folderExists ←
    match settings.saveFolder disk with
    | .ok folder => (disk.isFolder folder).mapError .disk
    | .error _ => .ok false
  let charsetKnown ←
    match settings.encoding.text? with
    | some name => (isKnownCharset name).mapError .decode
    | none => .ok false
  return ⟨folderExists, charsetKnown⟩

/-- The extensions, each of which starts with a dot. -/
def checkFileTypes
    (settings : Settings) :
    Except Complaint (List Text) :=
  match settings.fileTypes.texts? with
  | some extensions =>
      if extensions.all fun extension => extension.head? = some '.' then
        .ok extensions
      else
        .error .fileTypes
  | none => .error .fileTypes

/-- The names of files to ignore. -/
def checkIgnoreFiles
    (settings : Settings) :
    Except Complaint (List Text) :=
  match settings.ignoreFiles.texts? with
  | some names => .ok names
  | none => .error .ignoreFiles

/-- The names of folders to leave out. -/
def checkExcludeDirs
    (settings : Settings) :
    Except Complaint (List Text) :=
  match settings.excludeDirs.texts? with
  | some names => .ok names
  | none => .error .excludeDirs

/-- The folder of the reports. -/
def checkSaveDir
    (settings : Settings)
    (disk : Disk)
    (facts : Facts) :
    Except Complaint Path :=
  match settings.saveFolder disk with
  | .ok folder => if facts.folderExists then .ok folder else .error .saveDirMissing
  | .error _ => .error .saveDirKind

/-- The name of the text report. -/
def checkOutputName
    (settings : Settings) :
    Except Complaint Text :=
  match settings.outputName.text? with
  | some name => if name.isEmpty then .error .outputName else .ok name
  | none => .error .outputName

/-- The name of the charset. -/
def checkEncoding
    (settings : Settings)
    (facts : Facts) :
    Except Complaint Text :=
  match settings.encoding.text? with
  | some name => if facts.charsetKnown then .ok name else .error (.encodingUnknown name)
  | none => .error .encodingKind

/-- Whether the document is written too. -/
def checkWriteJson
    (settings : Settings) :
    Except Complaint Bool :=
  match settings.writeJson with
  | .bool value => .ok value
  | _ => .error .writeJson

/-- The complaint of a failed check. -/
def complaint?
    {α : Type} :
    Except Complaint α → Option Complaint
  | .ok _ => none
  | .error complaint => some complaint

/-- All complaints about settings, in the order of the checks. -/
def complaints
    (settings : Settings)
    (disk : Disk)
    (facts : Facts) :
    List Complaint :=
  [ complaint? settings.checkFileTypes,
    complaint? settings.checkIgnoreFiles,
    complaint? settings.checkExcludeDirs,
    complaint? (settings.checkSaveDir disk facts),
    complaint? settings.checkOutputName,
    complaint? (settings.checkEncoding facts),
    complaint? settings.checkWriteJson ].filterMap id

/-- The plan that follows from settings, or the first complaint about them. -/
def plan
    (settings : Settings)
    (disk : Disk)
    (facts : Facts) :
    Except Complaint Plan := do
  let extensions ← settings.checkFileTypes
  let ignored ← settings.checkIgnoreFiles
  let excluded ← settings.checkExcludeDirs
  let folder ← settings.checkSaveDir disk facts
  let outputName ← settings.checkOutputName
  let charset ← settings.checkEncoding facts
  let writeDocument ← settings.checkWriteJson
  return { extensions, ignored, excluded, folder, outputName, charset, writeDocument }

/-- The plan of a run; every complaint is noted, and the first one is the fault. -/
def check
    (settings : Settings)
    (disk : Disk) :
    Journal Plan :=
  match settings.facts disk with
  | .error fault => Journal.fail fault
  | .ok facts =>
      { notes :=
          (settings.complaints disk facts).map fun complaint =>
            ⟨.error, .settings, complaint.message⟩
        result := (settings.plan disk facts).mapError .rejected }

end Settings

end LineTally
