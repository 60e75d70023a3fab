import LineTally.Proofs.Disk.WalkReach
import LineTally.Proofs.Path.Text
import Mathlib.Data.List.Sort

namespace LineTally

/-!
# Walking a folder of a disk

The walk from a folder of a well-named disk has exactly the files below that folder
which a walk should list, each once and in the order of a walk.  That makes the list
the only one of its kind, so it does not matter in which order entries are held.
-/

namespace Disk

/-- Names lead to a folder exactly if they lead to a place where one is. -/
theorem leadsToFolder_iff
    {disk : Disk}
    {names : List Text} :
    disk.leadsToFolder names = true ↔
      ∃ place, followLinks disk.root .look maxLinks [] names = .ok place ∧
        disk.root.shapeAt? place.names = some .folder := by
  rw [leadsToFolder]
  cases followed : followLinks disk.root .look maxLinks [] names with
  | error error =>
      simp
  | ok place =>
      obtain ⟨placeNames, node⟩ := place
      have found := node_of_followLinks followed
      simp only at found
      rcases node with _ | (_ | _ | _) <;> simp [Node.shapeAt?, ← found, Node.shape]

/-- How many bytes are left for names below the folder that a walk starts from. -/
def room
    (root : FileRef) :
    Nat :=
  maxPathSize - Utf8.size (asStart root.toText)

/-- Whether an entry leads to a folder and is in reach of a walk, from the names at its root. -/
def leadsToFolderInReach
    (disk : Disk)
    (root : FileRef)
    (place entry : List Text) :
    Bool :=
  Node.InReach (room root) (entry.drop place.length) && disk.leadsToFolder entry

/-- A folder that a walk can start from, under the name it is given and at its place. -/
structure IsWalkRoot
    (disk : Disk)
    (root : FileRef)
    (place : List Text) :
    Prop where
  named : root.toText ≠ []
  notTooLong : Utf8.size root.toText ≤ maxPathSize
  leads : disk.place? root.toPath = some place
  isFolder : disk.root.shapeAt? place = some .folder

/-- A path in its normal form that leads to a folder is one that a walk can start from. -/
theorem exists_isWalkRoot_iff
    {disk : Disk}
    {text : Text} :
    (∃ place, disk.IsWalkRoot (.ofPath (.ofText text)) place) ↔
      disk.isFolder (.ofText text) = .ok true := by
  rw [isFolder_eq_true_iff]
  constructor
  · rintro ⟨place, _, _, leads, isFolder⟩
    exact ⟨place, leads, isFolder⟩
  · rintro ⟨place, leads, isFolder⟩
    exact ⟨place, Path.toText_ofText_ne_nil text, size_le_of_place? leads, leads, isFolder⟩

/--
A file that the walk from a folder lists, by its names from that folder on.  The way to
it goes through folders, not through links, of which none is excluded.  It is a file or
a link, but not one that leads to a folder.  As a disk takes no path that is too long, a
walk enters no folder that is out of reach, and sees no link out of reach lead to one.
-/
structure IsWalked
    (disk : Disk)
    (root : FileRef)
    (place excluded names : List Text) :
    Prop where
  below : names ≠ []
  throughFolders : disk.root.shapeAt? (place ++ names.dropLast) = some .folder
  inReach : Node.InReach (room root) names.dropLast
  noneExcluded : ∀ name ∈ names.dropLast, name ∉ excluded
  ends :
    (∃ body, disk.root.shapeAt? (place ++ names) = some (.file body)) ∨
      ∃ target, disk.root.shapeAt? (place ++ names) = some (.link target) ∧
        (Node.InReach (room root) names → disk.leadsToFolder (place ++ names) = false)

/-- What a walk lists is there. -/
theorem IsWalked.exists_shape
    {disk : Disk}
    {root : FileRef}
    {place excluded names : List Text}
    (walked : disk.IsWalked root place excluded names) :
    ∃ shape, disk.root.shapeAt? (place ++ names) = some shape := by
  rcases walked.ends with ⟨body, isFile⟩ | ⟨target, isLink, _⟩
  · exact ⟨_, isFile⟩
  · exact ⟨_, isLink⟩

/--
Two disks have the same entries in every folder, whatever the order these are held in,
and the same working folder.
-/
structure SameEntries
    (disk other : Disk) :
    Prop where
  here : other.here = disk.here
  shapes : ∀ names, other.root.shapeAt? names = disk.root.shapeAt? names

/-- A walk starts at the place of its folder. -/
theorem IsWalkRoot.walkStart?_eq
    {disk : Disk}
    {root : FileRef}
    {place : List Text}
    (start : disk.IsWalkRoot root place) :
    ∃ node, disk.root.find? place = some node ∧
      disk.walkStart? root = .ok (some (place, node)) := by
  obtain ⟨node, found, shape⟩ := Option.map_eq_some_iff.mp start.isFolder
  obtain ⟨entries, rfl⟩ := Node.shape_eq_folder_iff.mp shape
  obtain ⟨notNul, resolved⟩ := resolve_of_place? start.leads
  refine ⟨_, found, ?_⟩
  have named : root.toText.isEmpty = false := by
    simpa using start.named
  simp [walkStart?, notNul, named, start.notTooLong.not_gt, resolved, found]

section Listed

variable
  {disk : Disk}
  {root : FileRef}
  {place excluded : List Text}

/-- What a walk lists from the node at its place is what it should list on the disk. -/
theorem isWalked_iff
    {node : Node}
    (found : disk.root.find? place = some node)
    {names : List Text} :
    Node.IsWalked (disk.leadsToFolderInReach root place) excluded place node names ∧
        Node.InReach (room root) names.dropLast ↔
      disk.IsWalked root place excluded names := by
  have notToFolder :
      disk.leadsToFolderInReach root place (place ++ names) = false ↔
        (Node.InReach (room root) names → disk.leadsToFolder (place ++ names) = false) := by
    rw [leadsToFolderInReach, List.drop_left, Bool.and_eq_false_imp, decide_eq_true_iff]
  constructor
  · rintro ⟨⟨below, throughFolders, noneExcluded, ends⟩, inReach⟩
    rw [notToFolder] at ends
    simp only [← Node.shapeAt?_append found] at throughFolders ends
    exact ⟨below, throughFolders, inReach, noneExcluded, ends⟩
  · rintro ⟨below, throughFolders, inReach, noneExcluded, ends⟩
    simp only [Node.shapeAt?_append found] at throughFolders ends
    refine ⟨⟨below, throughFolders, noneExcluded, ?_⟩, inReach⟩
    rw [notToFolder]
    exact ends

/-- The walk from a folder lists exactly what it should, in the order of a walk. -/
theorem IsWalkRoot.walkFrom_eq
    (wellNamed : disk.root.WellNamed)
    (start : disk.IsWalkRoot root place)
    (excluded : List Text) :
    ∃ walked : List (List Text),
      disk.walkFrom excluded root = .ok (walked.map root.toPath.descend) ∧
        (∀ names, names ∈ walked ↔ disk.IsWalked root place excluded names) ∧
        walked.Pairwise WalksBefore := by
  obtain ⟨node, found, starts⟩ := start.walkStart?_eq
  have nodeNamed := (wellNamed.find? found).1
  refine
    ⟨Node.walk (disk.leadsToFolderInReach root place) excluded place
      (node.nearby (room root)), ?_, ?_, ?_⟩
  · rw [walkFrom, starts]
    rfl
  · intro names
    rw [Node.mem_walk_nearby nodeNamed, Node.mem_walk_iff nodeNamed]
    exact isWalked_iff found
  · exact Node.pairwise_walk (nodeNamed.nearby (room root))

end Listed

namespace EditsFiles

variable {disk later : Disk}

/-- The same names lead to folders before and after files are edited. -/
theorem leadsToFolder_eq
    (edits : disk.EditsFiles later)
    (names : List Text) :
    later.leadsToFolder names = disk.leadsToFolder names := by
  have sameWay := followLinks_sameWay edits.root .look maxLinks [] names
  rw [Bool.eq_iff_iff, leadsToFolder_iff, leadsToFolder_iff]
  generalize
    followLinks disk.root .look maxLinks [] names = way,
    followLinks later.root .look maxLinks [] names = laterWay at sameWay ⊢
  cases sameWay with
  | arrive names node laterNode =>
      simp [edits.root.isFolder_iff]
  | tooLong =>
      simp
  | fail notLong laterNotLong =>
      simp

/-- A walk starts from the same folders before and after files are edited. -/
theorem isWalkRoot
    (edits : disk.EditsFiles later)
    {root : FileRef}
    {place : List Text}
    (start : disk.IsWalkRoot root place) :
    later.IsWalkRoot root place where
  named := start.named
  notTooLong := start.notTooLong
  leads := by rw [edits.place?_eq, start.leads]
  isFolder := edits.root.isFolder_iff.mpr start.isFolder

/-- Whether a walk should list a file only depends, of all files, on this one. -/
theorem isWalked_iff
    (edits : disk.EditsFiles later)
    {root : FileRef}
    {place excluded names : List Text}
    (same : later.root.shapeAt? (place ++ names) = disk.root.shapeAt? (place ++ names)) :
    later.IsWalked root place excluded names ↔ disk.IsWalked root place excluded names := by
  constructor
  · rintro ⟨below, throughFolders, inReach, noneExcluded, ends⟩
    rw [edits.root.isFolder_iff] at throughFolders
    rw [same, edits.leadsToFolder_eq] at ends
    exact ⟨below, throughFolders, inReach, noneExcluded, ends⟩
  · rintro ⟨below, throughFolders, inReach, noneExcluded, ends⟩
    rw [← edits.root.isFolder_iff] at throughFolders
    rw [← same, ← edits.leadsToFolder_eq] at ends
    exact ⟨below, throughFolders, inReach, noneExcluded, ends⟩

end EditsFiles

namespace SameEntries

variable {disk other : Disk}

/-- Disks with the same entries differ in no file. -/
theorem editsFiles
    (same : disk.SameEntries other) :
    disk.EditsFiles other :=
  ⟨same.here, fun names => .inl (same.shapes names)⟩

end SameEntries

/--
The walk from a folder comes to an end and lists what it should: each of these files
once, nothing else, and in the order of a walk.  A disk with the same entries gives the
same list, in whatever order these are held.
-/
theorem walkFrom_exact_ordered
    {disk : Disk}
    {root : FileRef}
    {place : List Text}
    (wellNamed : disk.root.WellNamed)
    (start : disk.IsWalkRoot root place)
    (excluded : List Text) :
    (∃ walked : List (List Text),
      disk.walkFrom excluded root = .ok (walked.map root.toPath.descend) ∧
        (∀ names, names ∈ walked ↔ disk.IsWalked root place excluded names) ∧
        (walked.map root.toPath.descend).Nodup ∧
        walked.Pairwise WalksBefore) ∧
      ∀ other : Disk, disk.SameEntries other → other.root.WellNamed →
        other.walkFrom excluded root = disk.walkFrom excluded root := by
  obtain ⟨walked, lists, members, ordered⟩ := start.walkFrom_eq wellNamed excluded
  constructor
  · exact
      ⟨walked, lists, members, (WalksBefore.nodup ordered).map (Path.descend_injective _), ordered⟩
  · intro other same otherNamed
    obtain ⟨otherWalked, otherLists, otherMembers, otherOrdered⟩ :=
      (same.editsFiles.isWalkRoot start).walkFrom_eq otherNamed excluded
    -- A list in the order of a walk is known by its members.
    have sameMembers (names : List Text) : names ∈ otherWalked ↔ names ∈ walked := by
      rw [otherMembers, members, same.editsFiles.isWalked_iff (same.shapes _)]
    rw [lists, otherLists, otherOrdered.eq_of_mem_iff ordered sameMembers]

/--
A folder with files, sub-folders and links: one link leads to a sub-folder, one back to
the folder itself, one nowhere and one to itself.
-/
def linkedDisk : Disk :=
  ⟨.folder
    [ ("top".toList,
        .folder
          [ ("z.m".toList, .file (.bytes [])),
            ("sub".toList,
              .folder [("up".toList, .link "..".toList), ("b.m".toList, .file (.bytes []))]),
            ("skip".toList, .folder [("c.m".toList, .file (.bytes []))]),
            ("lost".toList, .link "nowhere".toList),
            ("alias".toList, .link "sub".toList),
            ("loop".toList, .link "loop".toList) ]) ],
    []⟩

/--
A walk of that folder that leaves out two names lists what is in a sub-folder and a link
that leads nowhere, but neither a link to a folder nor what is below an excluded name.
It starts from a folder although that has an excluded name, too.
-/
theorem walkFrom_exact_ordered_linkedDisk :
    linkedDisk.root.WellNamed ∧
      linkedDisk.IsWalkRoot (.ofText "top/".toList) ["top".toList] ∧
      ∃ walked : List (List Text),
        linkedDisk.walkFrom ["skip".toList, "top".toList] (.ofText "top/".toList) =
            .ok (walked.map (Path.ofText "top/".toList).descend) ∧
          walked.Pairwise WalksBefore ∧
          ["sub".toList, "b.m".toList] ∈ walked ∧
          ["lost".toList] ∈ walked ∧
          ["loop".toList] ∈ walked ∧
          ["alias".toList] ∉ walked ∧
          ["skip".toList, "c.m".toList] ∉ walked := by
  have wellNamed : linkedDisk.root.WellNamed := by
    simp [linkedDisk, Node.wellNamed_folder_iff, Node.IsEntryName]
  have start : linkedDisk.IsWalkRoot (.ofText "top/".toList) ["top".toList] :=
    ⟨by decide, by decide, by decide +kernel, by decide +kernel⟩
  obtain ⟨⟨walked, lists, members, _, ordered⟩, _⟩ :=
    walkFrom_exact_ordered wellNamed start ["skip".toList, "top".toList]
  refine ⟨wellNamed, start, walked, lists, ordered, ?_⟩
  simp only [members]
  refine ⟨?inFolder, ?nowhere, ?toItself, ?toFolder, ?excluded⟩
  case inFolder =>
    exact
      ⟨by decide, by decide +kernel, by decide, by decide, .inl ⟨.bytes [], by decide +kernel⟩⟩
  case nowhere =>
    exact
      ⟨by decide, by decide +kernel, by decide, by decide,
        .inr ⟨"nowhere".toList, by decide +kernel, fun _ => by decide +kernel⟩⟩
  case toItself =>
    exact
      ⟨by decide, by decide +kernel, by decide, by decide,
        .inr ⟨"loop".toList, by decide +kernel, fun _ => by decide +kernel⟩⟩
  case toFolder =>
    intro isWalked
    have isLink :
        linkedDisk.root.shapeAt? (["top".toList] ++ ["alias".toList]) =
          some (.link "sub".toList) := by
      decide +kernel
    have toFolder : linkedDisk.leadsToFolder (["top".toList] ++ ["alias".toList]) = true := by
      decide +kernel
    rcases isWalked.ends with ⟨body, isFile⟩ | ⟨_, _, notToFolder⟩
    · cases isLink.symm.trans isFile
    · cases toFolder.symm.trans (notToFolder (by decide))
  case excluded =>
    intro isWalked
    exact isWalked.noneExcluded "skip".toList (by decide) (by decide)

end Disk

end LineTally
