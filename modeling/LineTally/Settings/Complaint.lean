import LineTally.Disk.Fault

namespace LineTally

/-!
# Complaints

Why arguments or settings are rejected before a run starts.  A complaint has a
code, which groups complaints, and a text.
-/

/-- Why a settings file could not be loaded. -/
inductive LoadCause where
  | disk (fault : DiskFault)
  /-- Its text is not in the format of settings files, of which the reader says something. -/
  | malformed (words : Text)
  deriving Repr, DecidableEq

namespace LoadCause

/-- What the message says. -/
def message :
    LoadCause → Text
  | .disk fault => fault.message
  | .malformed words => words

end LoadCause

/-- A reason to reject arguments or settings. -/
inductive Complaint where
  | input
  | fileTypes
  | ignoreFiles
  | excludeDirs
  /-- The folder of the reports is no reference to a folder at all. -/
  | saveDirKind
  /-- The folder of the reports is not there. -/
  | saveDirMissing
  | outputName
  | encodingKind
  | encodingUnknown (name : Text)
  | writeJson
  /-- A table of settings has keys that are no settings. -/
  | unknownKeys (names : List Text)
  /-- A settings file could not be loaded. -/
  | unloadable (path : Text) (cause : LoadCause)
  deriving Repr, DecidableEq

namespace Complaint

/-- The code of a complaint. -/
def code :
    Complaint → Text
  | .input => "InvalidInput".toList
  | .fileTypes => "InvalidFileTypes".toList
  | .ignoreFiles => "InvalidIgnoreFiles".toList
  | .saveDirKind | .saveDirMissing => "InvalidSaveDir".toList
  | _ => "InvalidConfiguration".toList

/-- The text of a complaint. -/
def text :
    Complaint → Text
  | .input => "input_path must be a folder path or a list of files".toList
  | .fileTypes => "file_types must be a list of extensions, e.g. ['.m', '.cpp']".toList
  | .ignoreFiles => "ignore_files must be a list of file names".toList
  | .excludeDirs => "exclude_dirs must be a list of directory names".toList
  | .saveDirKind => "save_dir must be a path".toList
  | .saveDirMissing => "save_dir must be an existing folder".toList
  | .outputName => "output_name must be a file name".toList
  | .encodingKind => "encoding must be a string".toList
  | .encodingUnknown name => "unknown encoding: ".toList ++ name
  | .writeJson => "write_json must be boolean".toList
  | .unknownKeys names =>
      "Unknown configuration keys: ".toList ++ ", ".toList.intercalate names
  | .unloadable path cause =>
      "Cannot load configuration ".toList ++ path ++ ": ".toList ++ cause.message

/-- A complaint with its code. -/
def message
    (complaint : Complaint) :
    Text :=
  complaint.code ++ ": ".toList ++ complaint.text

end Complaint

end LineTally
