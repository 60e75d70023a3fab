import LineTally.Charset.Utf8
import LineTally.Disk.Fault
import LineTally.Disk.Node
import LineTally.Path.Basic

namespace LineTally

/-!
# Disks

A disk is a file tree and the working folder in it.  A path leads from the
working folder or from the root over folders and links to a place.  Links are
followed, but no more than forty of them on one way.
-/

/-- A file tree with the names that lead from its root to the working folder. -/
structure Disk where
  root : Node
  here : List Text
  deriving Repr, BEq

/-- Where a path leads: the names from the root, and the node there, if there is one. -/
structure Place where
  names : List Text
  node : Option Node
  deriving Repr, BEq

namespace Disk

/-- How many links may be on one way. -/
def maxLinks : Nat := 40

/-- How many bytes a name may have. -/
def maxNameSize : Nat := 255

/-- How many bytes a path may have. -/
def maxPathSize : Nat := 4095

/-- The empty name, which stands for a slash at the end: what is before it is a folder. -/
def slashName : Text := []

/-- The names of the target of a link. -/
def targetNames
    (target : Text) :
    List Text :=
  let names := (target.splitOn '/').filter fun name => !name.isEmpty
  if target.getLast? = some '/' then names ++ [slashName] else names

/-- Where a link in the given folder starts to lead. -/
def targetStart
    (folder : List Text)
    (target : Text) :
    List Text :=
  if target.head? = some '/' then [] else folder

/-- What a way through the tree is for. -/
inductive Purpose where
  | look
  /-- To make a file or to fill it anew, which no name with a slash after it can be. -/
  | create
  deriving Repr, DecidableEq

/--
Where the given names lead from a folder.  A link hands over to `onLink`, with
the folder that it leads from and the names that are left to follow.
-/
def follow
    (root : Node)
    (purpose : Purpose)
    (onLink : List Text → List Text → Except DiskError Place)
    (folder : List Text) :
    List Text → Except DiskError Place
  | [] => .ok ⟨folder, root.find? folder⟩
  | name :: rest =>
      match root.find? folder with
      | some (.folder entries) =>
          if purpose = .create && rest = [slashName] then
            .error .isFolder
          else if name = slashName || name = ['.'] then
            follow root purpose onLink folder rest
          else if name = ['.', '.'] then
            follow root purpose onLink folder.dropLast rest
          else if maxNameSize < Utf8.size name then
            .error .tooLong
          else
            match entries.lookup name with
            | none => if rest.isEmpty then .ok ⟨folder ++ [name], none⟩ else .error .missing
            | some (.link target) =>
                if target.isEmpty then
                  .error .missing
                else
                  onLink (targetStart folder target) (targetNames target ++ rest)
            | some _ => follow root purpose onLink (folder ++ [name]) rest
      | some _ => .error .notFolder
      | none => .error .missing

/-- Where names lead from a folder, over the given number of links at most. -/
def followLinks
    (root : Node)
    (purpose : Purpose) :
    Nat → List Text → List Text → Except DiskError Place
  | 0 => follow root purpose fun _ _ => .error .tooManyLinks
  | links + 1 => follow root purpose (followLinks root purpose links)

/-- The folder that a path starts from. -/
def start
    (disk : Disk)
    (path : Path) :
    List Text :=
  if path.anchor = .here then disk.here else []

/-- The place that a path leads to, for a purpose. -/
def resolveFor
    (disk : Disk)
    (purpose : Purpose)
    (path : Path) :
    Except DiskError Place :=
  if maxPathSize < Utf8.size path.toText then
    .error .tooLong
  else
    followLinks disk.root purpose maxLinks (disk.start path) path.parts

/-- The place that a path leads to. -/
def resolve
    (disk : Disk)
    (path : Path) :
    Except DiskError Place :=
  disk.resolveFor .look path

/-- Whether a path holds a NUL, which no disk is ever asked for. -/
def holdsNul
    (path : Path) :
    Bool :=
  path.toText.any (· = '\x00')

/-- The node that a path leads to; a path that leads nowhere leads to none. -/
def node?
    (disk : Disk)
    (path : Path) :
    Except DiskFault (Option Node) :=
  if holdsNul path then
    .ok none
  else
    match disk.resolve path with
    | .ok place => .ok place.node
    | .error .tooLong => .error (.refused .tooLong path.toText)
    | .error _ => .ok none

/-- Whether a path leads to a file. -/
def isFile
    (disk : Disk)
    (path : Path) :
    Except DiskFault Bool := do
  match ← disk.node? path with
  | some (.file _) => return true
  | _ => return false

/-- Whether a path leads to a folder. -/
def isFolder
    (disk : Disk)
    (path : Path) :
    Except DiskFault Bool := do
  match ← disk.node? path with
  | some (.folder _) => return true
  | _ => return false

/-- The bytes of the file that a path leads to. -/
def read
    (disk : Disk)
    (path : Path) :
    Except DiskFault (List UInt8) :=
  if holdsNul path then
    .error .nulInPath
  else
    match disk.resolve path with
    | .ok ⟨_, some (.file (.bytes content))⟩ => .ok content
    | .ok ⟨_, some (.file (.refused error))⟩ => .error (.refused error path.toText)
    | .ok ⟨_, some (.folder _)⟩ => .error (.refused .isFolder path.toText)
    | .ok _ => .error (.refused .missing path.toText)
    | .error error => .error (.refused error path.toText)

/-- The disk with the file that a path leads to made or filled anew. -/
def write
    (disk : Disk)
    (path : Path)
    (content : List UInt8) :
    Except DiskFault Disk :=
  if holdsNul path then
    .error .nulInPath
  else
    match disk.resolveFor .create path with
    | .ok ⟨_, some (.folder _)⟩ => .error (.refused .isFolder path.toText)
    | .ok ⟨_, some (.file (.refused error))⟩ => .error (.refused error path.toText)
    | .ok place => .ok { disk with root := disk.root.put place.names (.file (.bytes content)) }
    | .error error => .error (.refused error path.toText)

/-- The names from the root to the place of a path, where its last name is not followed. -/
def placeOf
    (disk : Disk)
    (path : Path) :
    List Text :=
  match disk.resolve ⟨path.anchor, path.parts.dropLast⟩ with
  | .ok place => place.names ++ path.parts.getLast?.toList
  | .error _ => disk.start path ++ path.parts

/-- The disk with a node put at the place of a path, and the folders on its way made. -/
def put
    (disk : Disk)
    (path : Path)
    (node : Node) :
    Disk :=
  { disk with root := disk.root.put (disk.placeOf path) node }

/-- The disk with a folder made at the place of a path, unless something is there. -/
def makeFolder
    (disk : Disk)
    (path : Path) :
    Disk :=
  match disk.root.find? (disk.placeOf path) with
  | some _ => disk
  | none => disk.put path (.folder [])

/-- The disk with all folders on the way of a path made, and the one that it leads to. -/
def makeFolders
    (disk : Disk)
    (path : Path) :
    Disk :=
  (List.range path.parts.length).foldl
    (fun disk size => disk.makeFolder ⟨path.anchor, path.parts.take (size + 1)⟩)
    disk

/-- The disk with a file made or filled anew, and the folders on its way made. -/
def writeMaking
    (disk : Disk)
    (path : Path)
    (content : List UInt8) :
    Except DiskFault Disk :=
  (disk.makeFolders ⟨path.anchor, path.parts.dropLast⟩).write path content

/-- The disk without the node at the place of a path. -/
def remove
    (disk : Disk)
    (path : Path) :
    Except DiskFault Disk :=
  let names := disk.placeOf path
  match disk.root.find? names with
  | some _ => .ok { disk with root := disk.root.erase names }
  | none => .error (.refused .missing path.toText)

end Disk

end LineTally
