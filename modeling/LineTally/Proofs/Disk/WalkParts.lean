import LineTally.Proofs.Disk.Subfolder

namespace LineTally

/-!
# Walks and their parts

A walk of a folder lists the own files of the folder, and below each of its sub-folders
what a walk of the sub-folder lists.  Both walks spell the paths there alike.
-/

namespace Node

/-- A node is a folder itself if that is its shape. -/
theorem shapeAt?_nil_eq_folder_iff
    {node : Node} :
    node.shapeAt? [] = some .folder ↔ node.isFolder = true := by
  cases node <;> simp [shapeAt?, find?, shape, isFolder]

end Node

namespace Disk

/-- An entry of a folder that a walk from there lists: no folder, nor seen to lead to one. -/
def IsOwnFile
    (disk : Disk)
    (root : FileRef)
    (place : List Text)
    (name : Text) :
    Prop :=
  (∃ body, disk.root.shapeAt? (place ++ [name]) = some (.file body)) ∨
    ∃ target, disk.root.shapeAt? (place ++ [name]) = some (.link target) ∧
      (Node.InReach (room root) [name] → disk.leadsToFolder (place ++ [name]) = false)

/-- The names of the sub-folders of a folder that are not excluded. -/
structure AreSubfolders
    (disk : Disk)
    (place excluded subfolders : List Text) :
    Prop where
  nodup : subfolders.Nodup
  mem_iff :
    ∀ name, name ∈ subfolders ↔
      disk.root.shapeAt? (place ++ [name]) = some .folder ∧ name ∉ excluded

section Parts

variable
  {disk : Disk}
  {root : FileRef}
  {place excluded : List Text}

/-- A walk lists an entry of its folder itself exactly if it is an own file. -/
theorem isWalked_singleton_iff
    (isFolder : disk.root.shapeAt? place = some .folder)
    {name : Text} :
    disk.IsWalked root place excluded [name] ↔ disk.IsOwnFile root place name := by
  constructor
  · intro walked
    exact walked.ends
  · intro ends
    exact
      ⟨List.cons_ne_nil _ _, by simpa using isFolder, Node.inReach_nil _, by simp, ends⟩

/-- What a walk lists has a single name, or is below a sub-folder that is not excluded. -/
theorem IsWalked.byFirst
    {subfolders names : List Text}
    (areSubfolders : disk.AreSubfolders place excluded subfolders)
    (walked : disk.IsWalked root place excluded names) :
    names.length = 1 ∨ ∃ name ∈ subfolders, ∃ rest, names = name :: rest := by
  rcases names with _ | ⟨name, _ | ⟨next, rest⟩⟩
  · exact (walked.below rfl).elim
  · exact .inl rfl
  · have throughFolders := walked.throughFolders
    rw [List.dropLast_cons_cons, List.append_cons] at throughFolders
    have isFolder := Node.shapeAt?_of_append throughFolders
    have notExcluded := walked.noneExcluded name List.mem_cons_self
    exact .inr ⟨name, (areSubfolders.mem_iff name).mpr ⟨isFolder, notExcluded⟩, _, rfl⟩

/-- The sub-folders of a folder can be listed. -/
theorem exists_areSubfolders
    (wellNamed : disk.root.WellNamed)
    (isFolder : disk.root.shapeAt? place = some .folder)
    (excluded : List Text) :
    ∃ subfolders, disk.AreSubfolders place excluded subfolders := by
  obtain ⟨node, found, shape⟩ := Option.map_eq_some_iff.mp isFolder
  obtain ⟨entries, rfl⟩ := Node.shape_eq_folder_iff.mp shape
  have nodeNamed := (wellNamed.find? found).1
  refine
    ⟨(entries.filter fun entry => entry.2.isFolder && !excluded.contains entry.1).map Prod.fst,
      (List.filter_sublist.map Prod.fst).nodup nodeNamed.distinct, ?_⟩
  intro name
  rw [Node.shapeAt?_append found, nodeNamed.shapeAt?_cons_iff, List.mem_map]
  simp only [List.mem_filter, Bool.and_eq_true, Bool.not_eq_true', List.contains_eq_mem,
    decide_eq_false_iff_not]
  constructor
  · rintro ⟨⟨_, child⟩, ⟨member, childIsFolder, notExcluded⟩, rfl⟩
    exact ⟨⟨child, member, Node.shapeAt?_nil_eq_folder_iff.mpr childIsFolder⟩, notExcluded⟩
  · rintro ⟨⟨child, member, childShape⟩, notExcluded⟩
    have childIsFolder := Node.shapeAt?_nil_eq_folder_iff.mp childShape
    exact ⟨⟨name, child⟩, ⟨member, childIsFolder, notExcluded⟩, rfl⟩

/-- Files are those with a single name and those under the first names of the others. -/
theorem perm_single_append_flatMap
    {walked : List (List Text)}
    {firsts : List Text}
    {below : Text → List (List Text)}
    (distinct : walked.Nodup)
    (firstsDistinct : firsts.Nodup)
    (belowDistinct : ∀ name ∈ firsts, (below name).Nodup)
    (members :
      ∀ names, names ∈ walked ↔
        (names ∈ walked ∧ names.length = 1) ∨
          ∃ name ∈ firsts, ∃ rest ∈ below name, name :: rest = names)
    (notSingle : ∀ name ∈ firsts, [] ∉ below name) :
    walked.Perm
      ((walked.filter fun names => names.length = 1) ++
        firsts.flatMap fun name => (below name).map (name :: ·)) := by
  have belowFirst : (firsts.flatMap fun name => (below name).map (name :: ·)).Nodup := by
    rw [List.nodup_flatMap]
    constructor
    · intro name member
      exact (belowDistinct name member).map List.cons_injective
    · apply firstsDistinct.imp
      intro name other different names inFirst inOther
      obtain ⟨_, _, rfl⟩ := List.mem_map.mp inFirst
      obtain ⟨_, _, same⟩ := List.mem_map.mp inOther
      exact different (List.cons.inj same).1.symm
  have apart :
      (walked.filter fun names => names.length = 1).Disjoint
        (firsts.flatMap fun name => (below name).map (name :: ·)) := by
    intro names isSingle isBelow
    obtain ⟨name, member, inBelow⟩ := List.mem_flatMap.mp isBelow
    obtain ⟨rest, restMember, rfl⟩ := List.mem_map.mp inBelow
    have single := of_decide_eq_true (List.mem_filter.mp isSingle).2
    rw [List.length_cons, Nat.add_eq_right, List.length_eq_zero_iff] at single
    exact notSingle name member (single ▸ restMember)
  have partsDistinct := List.nodup_append'.mpr ⟨distinct.filter _, belowFirst, apart⟩
  rw [List.perm_ext_iff_of_nodup distinct partsDistinct]
  intro names
  rw [members, List.mem_append, List.mem_filter, decide_eq_true_iff, List.mem_flatMap]
  simp only [List.mem_map]

/--
A walk of a folder, by the names from the folder on, taken apart: the files with a single
name, and for each sub-folder those that the walk of it lists, under its name.
-/
structure IsWalkInParts
    (disk : Disk)
    (folder : Path)
    (place excluded : List Text)
    (walked : List (List Text))
    (subfolders : List Text)
    (below : Text → List (List Text)) :
    Prop where
  lists : disk.walkFrom excluded (.ofPath folder) = .ok (walked.map folder.descend)
  mem_iff : ∀ names, names ∈ walked ↔ disk.IsWalked (.ofPath folder) place excluded names
  nodup : walked.Nodup
  areSubfolders : disk.AreSubfolders place excluded subfolders
  below_lists :
    ∀ name ∈ subfolders,
      disk.walkFrom excluded (.ofPath (folder.descend [name])) =
        .ok ((below name).map folder.descend)
  below_nodup : ∀ name ∈ subfolders, (below name).Nodup
  perm :
    walked.Perm
      ((walked.filter fun names => names.length = 1) ++ subfolders.flatMap below)

/-- A walk of a folder can be taken apart. -/
theorem exists_isWalkInParts
    {folder : Path}
    (proper : disk.root.Proper)
    (nulFree : ∀ name, disk.root.shapeAt? (place ++ [name]) = some .folder → '\x00' ∉ name)
    (normal : folder.IsNormal)
    (start : disk.IsWalkRoot (.ofPath folder) place)
    (noneAtEdge : folder = Path.workingFolder → disk.NoneAtEdge place)
    (excluded : List Text) :
    ∃ walked subfolders below,
      disk.IsWalkInParts folder place excluded walked subfolders below := by
  obtain ⟨walked, lists, members, ordered⟩ := start.walkFrom_eq proper.wellNamed excluded
  have distinct := WalksBefore.nodup ordered
  obtain ⟨subfolders, areSubfolders⟩ :=
    exists_areSubfolders proper.wellNamed start.isFolder excluded
  have each :
      ∀ name ∈ subfolders,
        ∃ rests : List (List Text),
          disk.walkFrom excluded (.ofPath (folder.descend [name])) =
              .ok (rests.map fun names => folder.descend (name :: names)) ∧
            rests.Nodup ∧
            ∀ names, names ∈ rests ↔
              disk.IsWalked (.ofPath folder) place excluded (name :: names) := by
    intro name member
    obtain ⟨isFolder, notExcluded⟩ := (areSubfolders.mem_iff name).mp member
    exact
      exists_walkFrom_descend_name proper normal isFolder noneAtEdge start
        (nulFree name isFolder) notExcluded
  choose! rests restLists restsDistinct restMembers using each
  have membersByFirst (names : List Text) :
      names ∈ walked ↔
        (names ∈ walked ∧ names.length = 1) ∨
          ∃ name ∈ subfolders, ∃ rest ∈ rests name, name :: rest = names := by
    constructor
    · intro member
      have isWalked := (members names).mp member
      rcases isWalked.byFirst areSubfolders with single | ⟨name, isSubfolder, rest, rfl⟩
      · exact .inl ⟨member, single⟩
      · exact
          .inr ⟨name, isSubfolder, rest, (restMembers name isSubfolder rest).mpr isWalked, rfl⟩
    · rintro (⟨member, _⟩ | ⟨name, isSubfolder, rest, member, rfl⟩)
      · exact member
      · exact (members _).mpr ((restMembers name isSubfolder rest).mp member)
  have notSingle (name : Text) (isSubfolder : name ∈ subfolders) : [] ∉ rests name := by
    intro member
    have isFolder := ((areSubfolders.mem_iff name).mp isSubfolder).1
    exact not_isWalked_of_isFolder isFolder ((restMembers name isSubfolder []).mp member)
  refine
    ⟨walked, subfolders, fun name => (rests name).map (name :: ·),
      { lists
        mem_iff := members
        nodup := distinct
        areSubfolders
        below_lists := ?_
        below_nodup := ?_
        perm :=
          perm_single_append_flatMap distinct areSubfolders.nodup restsDistinct membersByFirst
            notSingle }⟩
  · intro name member
    rw [restLists name member, List.map_map]
    rfl
  · intro name member
    exact (restsDistinct name member).map List.cons_injective

end Parts

end Disk

end LineTally
