import LineTally.Proofs.Disk.WalkFrom
import LineTally.Proofs.Run.Selection

namespace LineTally

/-!
# Finding files

The files found below a folder are those of the walk that leaves out no folder, less
those in an excluded folder, selected by their extensions.  So it makes no difference
whether excluded folders are left out on the way or afterwards.
-/

namespace Disk

variable
  {disk : Disk}
  {root : FileRef}
  {place excluded names : List Text}

/-- Exclusions take from a walk what is below an excluded folder. -/
theorem isWalked_iff_noneExcluded :
    disk.IsWalked root place excluded names ↔
      disk.IsWalked root place [] names ∧ ∀ name ∈ names.dropLast, name ∉ excluded := by
  constructor
  · rintro ⟨below, throughFolders, inReach, noneExcluded, ends⟩
    exact ⟨⟨below, throughFolders, inReach, by simp, ends⟩, noneExcluded⟩
  · rintro ⟨⟨below, throughFolders, inReach, _, ends⟩, noneExcluded⟩
    exact ⟨below, throughFolders, inReach, noneExcluded, ends⟩

/-- The names of a file that a walk lists are proper. -/
theorem IsWalked.named
    (wellNamed : disk.root.WellNamed)
    (walked : disk.IsWalked root place excluded names) :
    ∀ name ∈ names, Node.IsEntryName name := by
  obtain ⟨shape, shapeAt⟩ := walked.exists_shape
  obtain ⟨node, found, _⟩ := Option.map_eq_some_iff.mp shapeAt
  intro name member
  exact (wellNamed.find? found).2 name (List.mem_append_right _ member)

end Disk

namespace Selection

/-- No folder between a folder and a file below it has an excluded name. -/
def IsSpared
    (folder : Path)
    (excluded : List Text)
    (path : Path) :
    Prop :=
  ∀ name ∈ (path.parts.drop folder.parts.length).dropLast, name ∉ excluded

instance (folder : Path) (excluded : List Text) (path : Path) :
    Decidable (IsSpared folder excluded path) :=
  inferInstanceAs (Decidable (∀ _ ∈ _, _))

/-- The files below a folder that are not below an excluded one. -/
def spared
    (folder : Path)
    (excluded : List Text)
    (all : List Path) :
    List Path :=
  all.filter fun path => IsSpared folder excluded path

/-- A path below a folder is spared if none of its names but the last is excluded. -/
theorem isSpared_descend_iff
    {folder : Path}
    {excluded names : List Text} :
    IsSpared folder excluded (folder.descend names) ↔
      ∀ name ∈ names.dropLast, name ∉ excluded := by
  rw [IsSpared, Path.descend, List.drop_left]

/-- With more names excluded fewer files are spared, in the same order. -/
theorem spared_sublist
    {excluded more : List Text}
    (included : excluded ⊆ more)
    (folder : Path)
    (all : List Path) :
    (spared folder more all).Sublist (spared folder excluded all) := by
  apply List.monotone_filter_right
  intro path isSpared
  rw [decide_eq_true_iff] at isSpared ⊢
  intro name member isExcluded
  exact isSpared name member (included isExcluded)

section Walks

variable
  {disk : Disk}
  {root : FileRef}
  {place : List Text}

/-- Different files that walks list below a folder are under different texts. -/
theorem toText_injOn_of_isWalked
    (wellNamed : disk.root.WellNamed)
    {walked : List (List Text)}
    (listed : ∀ names ∈ walked, disk.IsWalked root place [] names) :
    Set.InjOn Path.toText {path | path ∈ walked.map root.toPath.descend} := by
  intro path member other otherMember same
  obtain ⟨names, inWalk, rfl⟩ := List.mem_map.mp member
  obtain ⟨otherNames, otherInWalk, rfl⟩ := List.mem_map.mp otherMember
  have isWalked := listed names inWalk
  have otherIsWalked := listed otherNames otherInWalk
  rw [Path.toText_descend_inj isWalked.below otherIsWalked.below
    (fun name inNames => (isWalked.named wellNamed name inNames).2)
    (fun name inNames => (otherIsWalked.named wellNamed name inNames).2) same]

/-- To leave folders out on the way of a walk is to leave out the files below them. -/
theorem exists_walkFrom_eq_spared
    (wellNamed : disk.root.WellNamed)
    (start : disk.IsWalkRoot root place) :
    ∃ all,
      disk.walkFrom [] root = .ok all ∧
        all.Nodup ∧ Set.InjOn Path.toText {path | path ∈ all} ∧
        ∀ excluded, disk.walkFrom excluded root = .ok (spared root.toPath excluded all) := by
  obtain ⟨walked, lists, members, ordered⟩ := start.walkFrom_eq wellNamed []
  refine ⟨_, lists, ?_, ?_, ?_⟩
  · exact (WalksBefore.nodup ordered).map (Path.descend_injective _)
  · exact toText_injOn_of_isWalked wellNamed fun names => (members names).mp
  · intro excluded
    obtain ⟨kept, listsKept, keptMembers, keptOrdered⟩ := start.walkFrom_eq wellNamed excluded
    -- Both lists are in the order of a walk, so it is enough that they have the same files.
    have keptEq :
        kept = walked.filter fun names => ∀ name ∈ names.dropLast, name ∉ excluded := by
      apply keptOrdered.eq_of_mem_iff (ordered.filter _)
      intro names
      rw [keptMembers, List.mem_filter, members, decide_eq_true_iff,
        Disk.isWalked_iff_noneExcluded]
    rw [listsKept, keptEq, spared, List.filter_map]
    congr 2
    apply List.filter_congr
    intro names _
    rw [Function.comp_apply, decide_eq_decide, isSpared_descend_iff]

end Walks

/--
What is found below a folder by extensions and excluded names, given all files that a
walk lists there.
-/
structure IsFound
    (folder : Path)
    (all : List Path)
    (found : List Text → List Text → List Text) :
    Prop where
  eq_selected :
    ∀ extensions excluded,
      found extensions excluded =
        (selected extensions (spared folder excluded all)).map Path.toText
  nodup : ∀ extensions excluded, (found extensions excluded).Nodup
  mem_iff :
    ∀ extensions excluded, ∀ path ∈ spared folder excluded all,
      path.toText ∈ found extensions excluded ↔
        ∃ extension ∈ extensions, HasExtension path extension
  repeated :
    ∀ front back excluded, ∀ extension ∈ front,
      found (front ++ extension :: back) excluded = found (front ++ back) excluded
  reordered :
    ∀ extensions others excluded, extensions.Perm others →
      (found extensions excluded).Perm (found others excluded)
  fewer :
    ∀ extensions excluded more, excluded ⊆ more →
      (found extensions more).Sublist (found extensions excluded)

/-- A selection by extensions is what is found, if all files are known from their texts. -/
theorem isFound_selected
    {folder : Path}
    {all : List Path}
    (distinct : all.Nodup)
    (known : Set.InjOn Path.toText {path | path ∈ all}) :
    IsFound folder all fun extensions excluded =>
      (selected extensions (spared folder excluded all)).map Path.toText where
  eq_selected _ _ := rfl
  nodup extensions excluded := by
    apply List.Nodup.map_on _ (nodup_selected (distinct.filter _) extensions)
    intro path member other otherMember same
    have inAll := List.mem_of_mem_filter (mem_selected_iff.mp member).1
    have otherInAll := List.mem_of_mem_filter (mem_selected_iff.mp otherMember).1
    exact known inAll otherInAll same
  mem_iff extensions excluded path member := by
    rw [List.mem_map]
    constructor
    · rintro ⟨other, isSelected, same⟩
      obtain ⟨otherMember, has⟩ := mem_selected_iff.mp isSelected
      have inAll := List.mem_of_mem_filter member
      have otherInAll := List.mem_of_mem_filter otherMember
      rwa [← known otherInAll inAll same]
    · intro has
      exact ⟨path, mem_selected_iff.mpr ⟨member, has⟩, rfl⟩
  repeated front back excluded extension isGiven := by
    rw [selected_repeated isGiven]
  reordered extensions others excluded reordered :=
    (selected_perm (distinct.filter _) reordered).map Path.toText
  fewer extensions excluded more included :=
    (selected_sublist (spared_sublist included folder all) extensions).map Path.toText

/--
What is found below a folder of a disk is what is selected by the extensions, in their
order, from the walk that leaves out no folder, less the files below excluded ones.
-/
theorem find_isFound
    {disk : Disk}
    {root : FileRef}
    {place : List Text}
    (wellNamed : disk.root.WellNamed)
    (start : disk.IsWalkRoot root place) :
    ∃ all found,
      disk.walkFrom [] root = .ok all ∧
        (∀ extensions excluded,
          find disk extensions excluded root = .ok (found extensions excluded)) ∧
        IsFound root.toPath all found := by
  obtain ⟨all, lists, distinct, known, listsSpared⟩ := exists_walkFrom_eq_spared wellNamed start
  refine ⟨all, _, lists, ?_, isFound_selected distinct known⟩
  intro extensions excluded
  have sparedDistinct : (spared root.toPath excluded all).Nodup := distinct.filter _
  rw [← withExtensions_eq_selected sparedDistinct, find, listsSpared]
  rfl

/-- A folder with a file that has two extensions, one that has one, and a folder to skip. -/
def overlapFolder : Node :=
  .folder
    [ ("b.x.m".toList, .file (.bytes [])),
      ("skip".toList, .folder [("c.m".toList, .file (.bytes []))]),
      ("a.m".toList, .file (.bytes [])),
      ("n.txt".toList, .file (.bytes [])) ]

/-- A disk with this folder in it. -/
def overlapDisk : Disk :=
  ⟨.folder [("top".toList, overlapFolder)], []⟩

/-- A file with two extensions is found once, for the first of them. -/
theorem find_isFound_overlapDisk :
    overlapDisk.root.WellNamed ∧
      overlapDisk.IsWalkRoot (.ofText "top".toList) ["top".toList] ∧
      ∃ all found,
        overlapDisk.walkFrom [] (.ofText "top".toList) = .ok all ∧
          IsFound (Path.ofText "top".toList) all found ∧
          found [".x.m".toList, ".m".toList, ".x.m".toList] ["skip".toList] =
            ["top/b.x.m".toList, "top/a.m".toList] := by
  have wellNamed : overlapDisk.root.WellNamed := by
    simp [overlapDisk, overlapFolder, Node.wellNamed_folder_iff, Node.IsEntryName]
  have start : overlapDisk.IsWalkRoot (.ofText "top".toList) ["top".toList] :=
    ⟨by decide, by decide, by decide +kernel, by decide +kernel⟩
  have computed :
      find overlapDisk [".x.m".toList, ".m".toList, ".x.m".toList] ["skip".toList]
          (.ofText "top".toList) =
        .ok ["top/b.x.m".toList, "top/a.m".toList] := by
    have starts :
        overlapDisk.walkStart? (.ofText "top".toList) =
          .ok (some (["top".toList], overlapFolder)) := by
      rfl
    rw [find, Disk.walkFrom, starts]
    cbv
  obtain ⟨all, found, lists, finds, isFound⟩ := find_isFound wellNamed start
  rw [finds, Except.ok.injEq] at computed
  exact ⟨wellNamed, start, all, found, lists, isFound, computed⟩

end Selection

end LineTally
