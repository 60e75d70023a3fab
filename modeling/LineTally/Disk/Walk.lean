import LineTally.Disk.Basic

namespace LineTally

/-!
# Walking a folder

A walk lists the files below a folder: in every folder first its own files, in
the order of their names, then what the walks of its sub-folders list, in the
order of theirs.  A link to a folder is neither listed nor followed; any other
link is listed as a file, even one that leads nowhere.  Sub-folders with an
excluded name are left out, and so are those whose path, as the walk spells it, is
too long for the disk.
-/

namespace Node

/-- Whether an entry of the folder with the given names is listed as a file. -/
def isListed
    (leadsToFolder : List Text → Bool)
    (folder : List Text)
    (entry : Text × Node) :
    Bool :=
  match entry.2 with
  | .file _ => true
  | .link _ => !leadsToFolder (folder ++ [entry.1])
  | .folder _ => false

/-- The entries in the order of their names. -/
def sortByName
    {α : Type}
    (entries : List (Text × α)) :
    List (Text × α) :=
  entries.mergeSort fun first second => first.1.precedes second.1

/-- The names of the listed files of a folder, in their order. -/
def listedNames
    (leadsToFolder : List Text → Bool)
    (folder : List Text)
    (entries : List (Text × Node)) :
    List Text :=
  (sortByName (entries.filter (isListed leadsToFolder folder))).map Prod.fst

mutual

/-- The files below a node, each by its names from that node on. -/
def walk
    (leadsToFolder : List Text → Bool)
    (excluded : List Text)
    (folder : List Text) :
    Node → List (List Text)
  | .folder entries =>
      (listedNames leadsToFolder folder entries).map (fun name => [name])
        ++ (sortByName (walkFolders leadsToFolder excluded folder entries)).flatMap
          fun walked => walked.2.map (walked.1 :: ·)
  | .file _ => []
  | .link _ => []

/-- The walks of the sub-folders among some entries, under their names. -/
def walkFolders
    (leadsToFolder : List Text → Bool)
    (excluded : List Text)
    (folder : List Text) :
    List (Text × Node) → List (Text × List (List Text))
  | [] => []
  | (name, node) :: rest =>
      let others := walkFolders leadsToFolder excluded folder rest
      if node.isFolder && !excluded.contains name then
        (name, walk leadsToFolder excluded (folder ++ [name]) node) :: others
      else
        others

end

mutual

/-- The tree without the folders whose path from the node on takes more bytes than given. -/
def nearby
    (room : Nat) :
    Node → Node
  | .folder entries => .folder (nearbyEntries room entries)
  | node => node

/-- The nearby parts of the trees among some entries. -/
def nearbyEntries
    (room : Nat) :
    List (Text × Node) → List (Text × Node)
  | [] => []
  | (name, node) :: rest =>
      let others := nearbyEntries room rest
      let size := Utf8.size name
      if !node.isFolder then
        (name, node) :: others
      else if size ≤ room then
        (name, node.nearby (room - size - 1)) :: others
      else
        others

end

end Node

namespace Disk

/-- Whether the names from the root on lead to a folder. -/
def leadsToFolder
    (disk : Disk)
    (names : List Text) :
    Bool :=
  match followLinks disk.root .look maxLinks [] names with
  | .ok ⟨_, some (.folder _)⟩ => true
  | _ => false

/-- The text of a folder as names below it are added to it. -/
def asStart
    (folder : Text) :
    Text :=
  if folder.getLast? = some '/' then folder else folder ++ ['/']

/-- The place that a walk starts at, if the text of the folder leads to one. -/
def walkStart?
    (disk : Disk)
    (folder : FileRef) :
    Except DiskFault (Option (List Text × Node)) :=
  let text := folder.toText
  if holdsNul folder.toPath then
    .error .nulInPath
  else if text.isEmpty || maxPathSize < Utf8.size text then
    .ok none
  else
    match disk.resolve folder.toPath with
    | .ok ⟨names, some (.folder entries)⟩ => .ok (some (names, .folder entries))
    | _ => .ok none

/-- The files below a folder as a caller names it, in the order of the walk. -/
def walkFrom
    (disk : Disk)
    (excluded : List Text)
    (folder : FileRef) :
    Except DiskFault (List Path) := do
  match ← disk.walkStart? folder with
  | none => return []
  | some (names, node) =>
      let room := maxPathSize - Utf8.size (asStart folder.toText)
      let leadsToFolder (entry : List Text) : Bool :=
        Utf8.size (['/'].intercalate (entry.drop names.length)) ≤ room
          && disk.leadsToFolder entry
      let walked := Node.walk leadsToFolder excluded names (node.nearby room)
      return walked.map folder.toPath.descend

/-- The files below the folder that a path leads to, in the order of the walk. -/
def walk
    (disk : Disk)
    (excluded : List Text)
    (path : Path) :
    Except DiskFault (List Path) :=
  disk.walkFrom excluded (.ofPath path)

end Disk

end LineTally
