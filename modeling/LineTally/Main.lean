import LineTally.CommandLine.Reach
import LineTally.Disk.Changes

namespace LineTally.CommandLine

/-!
# The command line

The program as it is started.  What it may look at is read from the file system
onto a disk; the program itself only sees that disk, and the files that it
changes there are written back.
-/

/-- What is in a file, as far as it can be read. -/
def readBody
    (place : String) :
    IO FileBody := do
  try
    return .bytes (← IO.FS.readBinFile place).toList
  catch
    | .permissionDenied .. => return .refused .denied
    | _ => return .refused .broken

/-- A part of the file system by its full name. -/
def pathOf
    (place : String) :
    Path :=
  .ofText place.toList

mutual

/-- The disk with what is at a place, and, if asked for, with all that is below it. -/
partial def load
    (deep : Bool)
    (disk : Disk)
    (place : String) :
    IO Disk := do
  let found ← IO.FS.realPath place
  let path := pathOf found.toString
  match (← found.metadata).type with
  | .file => return disk.put path (.file (← readBody found.toString))
  | .dir =>
      let disk := disk.makeFolder path
      if deep then
        (← found.readDir).foldlM loadEntry disk
      else
        return disk
  | _ => return disk

/-- The disk with an entry of a folder. -/
partial def loadEntry
    (disk : Disk)
    (entry : IO.FS.DirEntry) :
    IO Disk := do
  match (← entry.path.symlinkMetadata).type with
  | .dir | .file => load true disk entry.path.toString
  | .symlink => loadLink disk entry
  | .other => return disk.put (pathOf entry.path.toString) (.link [])

/-- The disk with a link and with what it leads to; one that leads nowhere has no target. -/
partial def loadLink
    (disk : Disk)
    (entry : IO.FS.DirEntry) :
    IO Disk := do
  let path := pathOf entry.path.toString
  try
    let target ← IO.FS.realPath entry.path
    load false (disk.put path (.link target.toString.toList)) target.toString
  catch _ =>
    return disk.put path (.link [])

end

/-- The disk with the last name of a path, be it a link or not, as far as it is there. -/
def loadStep
    (deep : Bool)
    (disk : Disk)
    (path : Path) :
    IO Disk := do
  let folder : Path := ⟨path.anchor, path.parts.dropLast⟩
  try
    let parent ← IO.FS.realPath (String.ofList folder.toText)
    let entry : IO.FS.DirEntry := ⟨parent, String.ofList path.name⟩
    let disk ←
      match (← entry.path.symlinkMetadata).type with
      | .symlink => loadLink disk entry
      | _ => pure disk
    load deep disk (String.ofList path.toText)
  catch _ =>
    return disk

/-- The disk with a path, and with every folder and link on its way. -/
def loadPath
    (deep : Bool)
    (disk : Disk)
    (path : Path) :
    IO Disk := do
  let starts := (List.range (path.parts.length + 1)).map fun size =>
    Path.mk path.anchor (path.parts.take size)
  let disk ← starts.foldlM (loadStep false) disk
  loadStep deep disk path

/-- The disk with all that the arguments of the program may lead to. -/
def loadReach
    (disk : Disk)
    (arguments : Arguments) :
    IO Disk := do
  let disk ← arguments.operandPaths.foldlM (loadPath true) disk
  let disk ← arguments.settingsPaths.foldlM (loadPath false) disk
  (arguments.reportPaths disk).foldlM (loadPath false) disk

/-- Writes the files that differ between two disks. -/
def saveChanges
    (earlier later : Disk) :
    IO Unit :=
  (earlier.changes later).forM fun file => do
    let path : Path := ⟨.root, file.1⟩
    IO.FS.writeBinFile (String.ofList path.toText) ⟨file.2.toArray⟩

/-- Shows how the program ended, and yields its exit code. -/
def finish
    (transcript : Transcript) :
    IO UInt32 := do
  (← IO.getStderr).putStr (String.ofList transcript.stderr)
  (← IO.getStdout).putStr (String.ofList transcript.stdout)
  match transcript.ending with
  | .exit code => return code.toUInt32
  | .fault fault =>
      (← IO.getStderr).putStrLn (String.ofList fault.message)
      return 1

/-- Runs the program on the file system. -/
def start
    (arguments : List Text) :
    IO UInt32 := do
  let here ← IO.currentDir
  let bare : Disk := ⟨.folder [], Path.names here.toString.toList⟩
  let disk ←
    match startRelease.read arguments with
    | .ok arguments => loadReach (bare.makeFolder ⟨.root, bare.here⟩) arguments
    | .error _ => pure bare
  let transcript := program disk arguments
  saveChanges disk transcript.disk
  finish transcript

end LineTally.CommandLine

/-- Runs the program with the arguments that it is started with. -/
def main
    (arguments : List String) :
    IO UInt32 :=
  LineTally.CommandLine.start (arguments.map String.toList)
