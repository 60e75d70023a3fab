import LineTally.Disk.Basic

namespace LineTally

/-!
# Changes of a disk

The files of a tree that can be read, and those of them that another tree does not
have with the same bytes at the same place.
-/

namespace Node

mutual

/-- The files of a tree that can be read, each with the names that lead to it. -/
def files :
    Node → List (List Text × List UInt8)
  | .file (.bytes content) => [([], content)]
  | .file (.refused _) => []
  | .link _ => []
  | .folder entries => filesOf entries

/-- The files of the trees among some entries. -/
def filesOf :
    List (Text × Node) → List (List Text × List UInt8)
  | [] => []
  | (name, node) :: rest =>
      (node.files.map fun file => (name :: file.1, file.2)) ++ filesOf rest

end

/-- Whether a tree has a file with exactly the given bytes at a place. -/
def hasFile
    (tree : Node)
    (names : List Text)
    (content : List UInt8) :
    Bool :=
  match tree.find? names with
  | some (.file (.bytes found)) => found = content
  | _ => false

end Node

namespace Disk

/-- The files that are new or filled anew on a later disk. -/
def changes
    (earlier later : Disk) :
    List (List Text × List UInt8) :=
  later.root.files.filter fun file => !earlier.root.hasFile file.1 file.2

end Disk

end LineTally
