import LineTally.Disk.Basic
import Mathlib.Tactic.SplitIfs

namespace LineTally

/-!
# What paths lead to

Every way through the tree ends at names from the root, and the node that it finds
is the one at these names.  So the bytes that a path leads to are settled by the
place it leads to and by the file there, and the disk answers about every path but
one that is too long for it, also if the file there cannot be read.
-/

namespace Node

/-- A node one name further down is a child of the node before. -/
theorem find?_concat
    (tree : Node)
    (names : List Text)
    (name : Text) :
    tree.find? (names ++ [name]) = (tree.find? names).bind (·.child? name) := by
  induction names generalizing tree with
  | nil =>
      cases found : tree.child? name <;> simp [find?, found]
  | cons first rest inductionHypothesis =>
      cases found : tree.child? first with
      | none =>
          simp [find?, found]
      | some child =>
          simpa [find?, found] using inductionHypothesis child

/-- What a node is by itself, whatever is below it. -/
inductive Shape where
  | file (body : FileBody)
  | link (target : Text)
  | folder
  deriving DecidableEq

/-- The shape of a node. -/
def shape :
    Node → Shape
  | .file body => .file body
  | .link target => .link target
  | .folder _ => .folder

/-- The shape of the node at the end of the given names. -/
def shapeAt?
    (tree : Node)
    (names : List Text) :
    Option Shape :=
  (tree.find? names).map shape

/-- What is in a file, by its shape. -/
def Shape.body? :
    Shape → Option FileBody
  | .file body => some body
  | _ => none

/-- What is in the file at the end of the given names, if there is one. -/
def bodyAt?
    (tree : Node)
    (names : List Text) :
    Option FileBody :=
  (tree.shapeAt? names).bind Shape.body?

/-- The bytes of the file at the end of the given names, if there is one that can be read. -/
def fileAt?
    (tree : Node)
    (names : List Text) :
    Option (List UInt8) :=
  (tree.bodyAt? names).bind FileBody.bytes?

/-- What is at some names is in the file that is found there. -/
theorem bodyAt?_eq_some_iff
    {tree : Node}
    {names : List Text}
    {body : FileBody} :
    tree.bodyAt? names = some body ↔ tree.find? names = some (.file body) := by
  rw [bodyAt?, shapeAt?]
  rcases tree.find? names with _ | (_ | _ | _) <;> simp [shape, Shape.body?]

/-- The bytes at some names are those of the file that is found there. -/
theorem fileAt?_eq_some_iff
    {tree : Node}
    {names : List Text}
    {content : List UInt8} :
    tree.fileAt? names = some content ↔ tree.find? names = some (.file (.bytes content)) := by
  rw [fileAt?, Option.bind_eq_some_iff, ← bodyAt?_eq_some_iff]
  constructor
  · rintro ⟨_ | _, atNames, isContent⟩
    · cases isContent
      exact atNames
    · cases isContent
  · intro atNames
    exact ⟨_, atNames, rfl⟩

/-- What is below a node further down is below the node before. -/
theorem shapeAt?_append
    {tree node : Node}
    {front : List Text}
    (found : tree.find? front = some node)
    (names : List Text) :
    tree.shapeAt? (front ++ names) = node.shapeAt? names := by
  induction front generalizing tree with
  | nil =>
      cases found
      rfl
  | cons name rest inductionHypothesis =>
      rw [find?] at found
      split at found
      next child isChild =>
        rw [← inductionHypothesis found, shapeAt?, shapeAt?, List.cons_append, find?, isChild]
      next =>
        cases found

/-- A node is a folder if that is its shape. -/
theorem shape_eq_folder_iff
    {node : Node} :
    node.shape = .folder ↔ ∃ entries, node = .folder entries := by
  cases node <;> simp [shape]

end Node

namespace Disk

/-- What the next name on a way does follows from the shapes of two nodes. -/
theorem follow_cons
    (root : Node)
    (purpose : Purpose)
    (onLink : List Text → List Text → Except DiskError Place)
    (folder : List Text)
    (name : Text)
    (rest : List Text) :
    follow root purpose onLink folder (name :: rest) =
      match root.shapeAt? folder with
      | some .folder =>
          if purpose = .create && rest = [slashName] then
            .error .isFolder
          else if name = slashName || name = ['.'] then
            follow root purpose onLink folder rest
          else if name = ['.', '.'] then
            follow root purpose onLink folder.dropLast rest
          else if maxNameSize < Utf8.size name then
            .error .tooLong
          else
            match root.shapeAt? (folder ++ [name]), rest with
            | none, [] => .ok ⟨folder ++ [name], none⟩
            | none, _ :: _ => .error .missing
            | some (.link target), _ =>
                if target.isEmpty then
                  .error .missing
                else
                  onLink (targetStart folder target) (targetNames target ++ rest)
            | some _, _ => follow root purpose onLink (folder ++ [name]) rest
      | some _ => .error .notFolder
      | none => .error .missing := by
  rw [follow, Node.shapeAt?, Node.shapeAt?, Node.find?_concat]
  rcases root.find? folder with _ | (_ | _ | entries)
  · rfl
  · rfl
  · rfl
  · simp only [Option.map_some, Node.shape, Option.bind_some, Node.child?]
    congr 4
    rcases entries.lookup name with _ | (_ | _ | _)
    · cases rest <;> rfl
    · rfl
    · rfl
    · rfl

/-- A way that arrives finds the node at the names where it ends. -/
theorem node_of_follow
    {root : Node}
    {purpose : Purpose}
    {onLink : List Text → List Text → Except DiskError Place}
    (ofLink :
      ∀ folder names place, onLink folder names = .ok place →
        place.node = root.find? place.names)
    {folder names : List Text}
    {place : Place}
    (arrived : follow root purpose onLink folder names = .ok place) :
    place.node = root.find? place.names := by
  induction names generalizing folder with
  | nil =>
      cases arrived
      rfl
  | cons name rest inductionHypothesis =>
      rw [follow_cons] at arrived
      split at arrived
      · split_ifs at arrived
        · exact inductionHypothesis arrived
        · exact inductionHypothesis arrived
        · split at arrived
          next nothing _ =>
            cases arrived
            exact (Option.map_eq_none_iff.mp nothing).symm
          next =>
            cases arrived
          next target link =>
            split_ifs at arrived
            exact ofLink _ _ _ arrived
          next =>
            exact inductionHypothesis arrived
      · cases arrived
      · cases arrived

/-- A way over links finds the node at the names where it ends. -/
theorem node_of_followLinks
    {root : Node}
    {purpose : Purpose}
    {links : Nat}
    {folder names : List Text}
    {place : Place}
    (arrived : followLinks root purpose links folder names = .ok place) :
    place.node = root.find? place.names := by
  induction links generalizing folder names place with
  | zero =>
      apply node_of_follow _ arrived
      intro folder names place linked
      cases linked
  | succ links inductionHypothesis =>
      exact node_of_follow (fun _ _ _ => inductionHypothesis) arrived

/-- The node that a path is resolved to is the one at the names of the place. -/
theorem node_of_resolveFor
    {disk : Disk}
    {purpose : Purpose}
    {path : Path}
    {place : Place}
    (resolved : disk.resolveFor purpose path = .ok place) :
    place.node = disk.root.find? place.names := by
  rw [resolveFor] at resolved
  split_ifs at resolved
  exact node_of_followLinks resolved

/-- The names from the root to where a path leads, if it leads anywhere. -/
def place?
    (disk : Disk)
    (path : Path) :
    Option (List Text) :=
  if holdsNul path then
    none
  else
    match disk.resolve path with
    | .ok place => some place.names
    | .error _ => none

/-- What is in the file that a path leads to, if it leads to one. -/
def body?
    (disk : Disk)
    (path : Path) :
    Option FileBody :=
  (disk.place? path).bind disk.root.bodyAt?

/-- The bytes of the file that a path leads to, if it leads to one that can be read. -/
def content?
    (disk : Disk)
    (path : Path) :
    Option (List UInt8) :=
  (disk.place? path).bind disk.root.fileAt?

/-- The bytes that a path leads to are in the file that it leads to. -/
theorem content?_eq_some_iff
    {disk : Disk}
    {path : Path}
    {content : List UInt8} :
    disk.content? path = some content ↔ disk.body? path = some (.bytes content) := by
  rw [content?, body?]
  cases disk.place? path with
  | none =>
      simp
  | some names =>
      rw [Option.bind_some, Option.bind_some, Node.fileAt?_eq_some_iff,
        Node.bodyAt?_eq_some_iff]

/-- A path that the disk refuses to look at, since it or a name on its way is too long. -/
def RefusesPath
    (disk : Disk)
    (path : Path) :
    Prop :=
  holdsNul path = false ∧ disk.resolve path = .error .tooLong

/-- A disk that refuses a path says so when it is asked for the node there. -/
theorem node?_of_refusesPath
    {disk : Disk}
    {path : Path}
    (refused : disk.RefusesPath path) :
    disk.node? path = .error (.refused .tooLong path.toText) := by
  simp [node?, refused.1, refused.2]

/-- Unless it refuses a path, a disk finds the node at the place where the path leads. -/
theorem node?_of_not_refusesPath
    {disk : Disk}
    {path : Path}
    (taken : ¬ disk.RefusesPath path) :
    disk.node? path = .ok ((disk.place? path).bind disk.root.find?) := by
  cases nul : holdsNul path with
  | true =>
      simp [node?, place?, nul]
  | false =>
      cases resolved : disk.resolve path with
      | ok place =>
          have node := node_of_resolveFor resolved
          simp [node?, place?, nul, resolved, node]
      | error error =>
          have notLong : error ≠ .tooLong := by
            rintro rfl
            exact taken ⟨nul, resolved⟩
          cases error <;> simp_all [node?, place?]

/-- A disk that refuses a path does not say whether the path leads to a file. -/
theorem isFile_of_refusesPath
    {disk : Disk}
    {path : Path}
    (refused : disk.RefusesPath path) :
    disk.isFile path = .error (.refused .tooLong path.toText) := by
  rw [isFile, node?_of_refusesPath refused]
  rfl

/-- Unless it refuses a path, a disk says whether the path leads to a file. -/
theorem isFile_of_not_refusesPath
    {disk : Disk}
    {path : Path}
    (taken : ¬ disk.RefusesPath path) :
    disk.isFile path = .ok (disk.body? path).isSome := by
  rw [isFile, node?_of_not_refusesPath taken, body?]
  cases place : disk.place? path with
  | none =>
      rfl
  | some names =>
      simp only [Option.bind_some, Node.bodyAt?, Node.shapeAt?]
      rcases disk.root.find? names with _ | (_ | _ | _) <;> rfl

/-- A disk says whether a path leads to a file exactly if it does not refuse the path. -/
theorem isFile_answers_iff
    {disk : Disk}
    {path : Path} :
    (∃ answer, disk.isFile path = .ok answer) ↔ ¬ disk.RefusesPath path := by
  constructor
  · rintro ⟨answer, answered⟩ refused
    rw [isFile_of_refusesPath refused] at answered
    cases answered
  · intro taken
    exact ⟨_, isFile_of_not_refusesPath taken⟩

/-- Unless it refuses a path, a disk says whether the path leads to a folder. -/
theorem isFolder_of_not_refusesPath
    {disk : Disk}
    {path : Path}
    (taken : ¬ disk.RefusesPath path) :
    disk.isFolder path =
      .ok (decide ((disk.place? path).bind disk.root.shapeAt? = some .folder)) := by
  rw [isFolder, node?_of_not_refusesPath taken]
  cases disk.place? path with
  | none =>
      rfl
  | some place =>
      rw [Option.bind_some, Option.bind_some]
      rcases found : disk.root.find? place with _ | (_ | _ | _) <;>
        simp only [Node.shapeAt?, found] <;>
        rfl

/-- A disk says that a path leads to a folder exactly if there is one at its place. -/
theorem isFolder_eq_true_iff
    {disk : Disk}
    {path : Path} :
    disk.isFolder path = .ok true ↔
      ∃ place, disk.place? path = some place ∧
        disk.root.shapeAt? place = some .folder := by
  by_cases refused : disk.RefusesPath path
  · have nowhere : disk.place? path = none := by
      simp [place?, refused.1, refused.2]
    simp only [nowhere, isFolder, node?_of_refusesPath refused]
    constructor
    · intro answered
      cases answered
    · rintro ⟨place, leads, _⟩
      cases leads
  · rw [isFolder_of_not_refusesPath refused, Except.ok.injEq, decide_eq_true_iff,
      Option.bind_eq_some_iff]

/-- A path that leads to a file is not refused. -/
theorem not_refusesPath_of_body?
    {disk : Disk}
    {path : Path}
    {body : FileBody}
    (found : disk.body? path = some body) :
    ¬ disk.RefusesPath path := by
  rintro ⟨notNul, tooLong⟩
  simp [body?, place?, notNul, tooLong] at found

/-- A disk says that a path leads to a file exactly if there is one where it leads. -/
theorem isFile_eq_true_iff
    {disk : Disk}
    {path : Path} :
    disk.isFile path = .ok true ↔ ∃ body, disk.body? path = some body := by
  rw [← Option.isSome_iff_exists]
  constructor
  · intro answered
    have taken := isFile_answers_iff.mp ⟨true, answered⟩
    rw [isFile_of_not_refusesPath taken] at answered
    exact Except.ok.inj answered
  · intro isSome
    obtain ⟨body, found⟩ := Option.isSome_iff_exists.mp isSome
    rw [isFile_of_not_refusesPath (not_refusesPath_of_body? found), isSome]

/-- A path that leads to a place is resolved to the place and to the node there. -/
theorem resolve_of_place?
    {disk : Disk}
    {path : Path}
    {names : List Text}
    (leads : disk.place? path = some names) :
    holdsNul path = false ∧ disk.resolve path = .ok ⟨names, disk.root.find? names⟩ := by
  cases nul : holdsNul path with
  | true =>
      simp [place?, nul] at leads
  | false =>
      cases resolved : disk.resolve path with
      | error error =>
          simp [place?, nul, resolved] at leads
      | ok place =>
          have node := node_of_resolveFor resolved
          obtain ⟨placeNames, placeNode⟩ := place
          simp only [place?, nul, resolved] at leads
          cases leads
          simp only at node
          exact ⟨rfl, by rw [node]⟩

/-- A path that leads to a place is not too long. -/
theorem size_le_of_place?
    {disk : Disk}
    {path : Path}
    {names : List Text}
    (leads : disk.place? path = some names) :
    Utf8.size path.toText ≤ maxPathSize := by
  have resolved := (resolve_of_place? leads).2
  rw [resolve, resolveFor] at resolved
  split_ifs at resolved with tooLong
  exact Nat.le_of_not_lt tooLong

/-- A path without NUL that the disk does not refuse is not too long. -/
theorem size_le_of_not_refusesPath
    {disk : Disk}
    {path : Path}
    (noNul : holdsNul path = false)
    (taken : ¬ disk.RefusesPath path) :
    Utf8.size path.toText ≤ maxPathSize := by
  rw [← Nat.not_lt]
  intro tooLong
  refine taken ⟨noNul, ?_⟩
  rw [resolve, resolveFor, if_pos tooLong]

/-- What is in the file that a path leads to is all that reading the path depends on. -/
theorem read_of_body?
    {disk : Disk}
    {path : Path}
    {body : FileBody}
    (found : disk.body? path = some body) :
    disk.read path =
      match body with
      | .bytes content => .ok content
      | .refused error => .error (.refused error path.toText) := by
  obtain ⟨names, placed, file⟩ := Option.bind_eq_some_iff.mp found
  have atNames := Node.bodyAt?_eq_some_iff.mp file
  obtain ⟨nul, resolved⟩ := resolve_of_place? placed
  cases body <;> simp [read, nul, resolved, atNames]

/-- The bytes that a path leads to can be read. -/
theorem read_of_content?
    {disk : Disk}
    {path : Path}
    {content : List UInt8}
    (found : disk.content? path = some content) :
    disk.read path = .ok content :=
  read_of_body? (content?_eq_some_iff.mp found)

end Disk

end LineTally
