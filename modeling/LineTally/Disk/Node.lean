import LineTally.Disk.Fault

namespace LineTally

/-!
# File trees

A node is a file, a symbolic link with the text that it points to, or a folder
with named nodes.  A node below another one is found by the names on the way to it.

A file has its bytes, unless the disk does not give them away; then nothing can be
written into it either.  Folders are open to all, no file is under two names, and
what is neither file, link nor folder is taken for a link that leads nowhere.
-/

/-- What is in a file. -/
inductive FileBody where
  | bytes (content : List UInt8)
  /-- The disk does not give the bytes away, for a reason. -/
  | refused (error : DiskError)
  deriving Repr, DecidableEq

/-- The bytes of a file, if the disk gives them away. -/
def FileBody.bytes? :
    FileBody → Option (List UInt8)
  | .bytes content => some content
  | .refused _ => none

/-- A node of a file tree. -/
inductive Node where
  | file (body : FileBody)
  | link (target : Text)
  | folder (entries : List (Text × Node))
  deriving Repr, BEq

namespace Node

/-- Whether a node is a folder itself, and not a link to one. -/
def isFolder :
    Node → Bool
  | .folder _ => true
  | _ => false

/-- The node that a folder has under a name. -/
def child?
    (node : Node)
    (name : Text) :
    Option Node :=
  match node with
  | .folder entries => entries.lookup name
  | _ => none

/-- The node at the end of the given names. -/
def find?
    (node : Node) :
    List Text → Option Node
  | [] => some node
  | name :: rest =>
      match node.child? name with
      | some child => child.find? rest
      | none => none

/-- The entries with a node put under a name, in the place of an earlier one. -/
def putEntry
    (name : Text)
    (node : Node) :
    List (Text × Node) → List (Text × Node)
  | [] => [(name, node)]
  | entry :: rest =>
      if entry.1 = name then
        (name, node) :: rest
      else
        entry :: putEntry name node rest

/-- The tree with a node put at the end of the given names; missing folders are made. -/
def put
    (tree : Node)
    (names : List Text)
    (placed : Node) :
    Node :=
  match names, tree with
  | [], _ => placed
  | name :: rest, .folder entries =>
      let child := (entries.lookup name).getD (.folder [])
      .folder (putEntry name (child.put rest placed) entries)
  | _ :: _, tree => tree

/-- The tree without the node at the end of the given names. -/
def erase
    (tree : Node)
    (names : List Text) :
    Node :=
  match names, tree with
  | [name], .folder entries => .folder (entries.filter fun entry => entry.1 ≠ name)
  | name :: rest, .folder entries =>
      match entries.lookup name with
      | some child => .folder (putEntry name (child.erase rest) entries)
      | none => .folder entries
  | _, tree => tree

end Node

end LineTally
