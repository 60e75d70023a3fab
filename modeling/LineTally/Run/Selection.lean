import LineTally.Disk.Walk
import LineTally.Run.Journal

namespace LineTally

/-!
# Selecting files

Which files a run counts: the files below a folder that have one of the given
extensions, or the files that are listed.  A file whose base name is ignored is
left out either way.
-/

/-- What a run is asked to count. -/
inductive Input where
  /-- A folder with all that is below it, or a single file. -/
  | single (reference : FileRef)
  /-- Files one by one. -/
  | listed (references : List FileRef)
  deriving Repr, DecidableEq

namespace Input

/-- The input that a value is, if it is a reference or a list or tuple of references. -/
def ofValue?
    (value : Value) :
    Option Input :=
  match value.fileRef? with
  | some reference => some (.single reference)
  | none => do
      let items ← value.sequence?
      let references ← items.mapM Value.fileRef?
      return .listed references

end Input

namespace Selection

/-- Whether a folder name is excluded from a walk. -/
def isExcluded
    (excluded : List Text)
    (name : Text) :
    Bool :=
  excluded.contains name

/-- Whether the base name of a reference is ignored. -/
def isIgnored
    (ignored : List Text)
    (reference : FileRef) :
    Bool :=
  ignored.contains reference.baseName

/-- The references whose base names are not ignored. -/
def dropIgnored
    (ignored : List Text)
    (references : List FileRef) :
    List FileRef :=
  if ignored.isEmpty then
    references
  else
    references.filter fun reference => !isIgnored ignored reference

/-- The paths with one of the extensions, by the order of the extensions, each one once. -/
def withExtensions
    (extensions : List Text)
    (paths : List Path) :
    List Path :=
  (extensions.flatMap fun extension =>
    paths.filter fun path => extension.isSuffixOf path.name).eraseDups

/-- The files below a folder that have one of the extensions, as texts. -/
def find
    (disk : Disk)
    (extensions excluded : List Text)
    (folder : FileRef) :
    Except DiskFault (List Text) := do
  let paths ← disk.walkFrom excluded folder
  return (withExtensions extensions paths).map Path.toText

/-- The files of an input before any is ignored. -/
def gather
    (disk : Disk)
    (extensions excluded : List Text) :
    Input → Except DiskFault (List Text)
  | .single reference => do
      if ← disk.isFolder reference.toPath then
        find disk extensions excluded (.ofPath reference.toPath)
      else
        return [reference.toText]
  | .listed references => .ok (references.map FileRef.toText)

/-- What is said about a selection. -/
def summary
    (kept found : Nat) :
    Text :=
  "Collected ".toList ++ Decimal.ofNat kept ++ " files (".toList
    ++ Decimal.ofNat (found - kept) ++ " ignored)".toList

/-- The files of an input that are to be counted. -/
def collect
    (disk : Disk)
    (extensions ignored excluded : List Text)
    (input : Input) :
    Journal (List Text) := do
  let found ← Journal.ofDisk (gather disk extensions excluded input)
  let kept := (dropIgnored ignored (found.map .ofText)).map FileRef.toText
  Journal.note .info .selection (summary kept.length found.length)
  return kept

end Selection

end LineTally
