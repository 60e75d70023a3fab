import LineTally.Proofs.Disk.WalkParts
import LineTally.Proofs.Run.CountFiles
import LineTally.Proofs.Run.Find
import LineTally.Proofs.Tally.Sums

namespace LineTally

/-!
# Folders and their parts

The files found below a folder are its own files and those found below each of its
sub-folders, under the same texts.  So what a folder counts is what its parts count
together, although the files come in another order: those of a folder are grouped by
their extensions over all of its sub-folders.
-/

namespace Counting

/-- The record that counting a UTF-8 file gives; one without lines if counting it fails. -/
def recordOf
    (disk : Disk)
    (file : Text) :
    FileRecord :=
  match (countFile disk usualCharset (.ofText file)).result with
  | .ok record => record
  | .error _ => .empty file

/-- If the disk refuses none of some files, counting gives the record of each. -/
theorem countFiles_eq_map_recordOf
    {disk : Disk}
    {files : List Text}
    (taken : ∀ file ∈ files, ¬ disk.RefusesPath (pathOf (.ofText file))) :
    (countFiles disk usualCharset (files.map .ofText)).result =
      .ok (files.map (recordOf disk)) := by
  induction files with
  | nil =>
      rfl
  | cons file rest inductionHypothesis =>
      obtain ⟨fileTaken, restTaken⟩ := List.forall_mem_cons.mp taken
      obtain ⟨record, notes, counted, _⟩ := countFile_isExact fileTaken
      rw [List.map_cons, countFiles_cons_result, inductionHypothesis restTaken, List.map_cons,
        recordOf, counted]
      rfl

end Counting

namespace Selection

/-- What one filter keeps is selected, in some order. -/
theorem selected_perm_filter
    {paths : List Path}
    (distinct : paths.Nodup)
    (extensions : List Text) :
    (selected extensions paths).Perm
      (paths.filter fun path => ∃ extension ∈ extensions, HasExtension path extension) := by
  rw [List.perm_ext_iff_of_nodup (nodup_selected distinct extensions) (distinct.filter _)]
  intro path
  rw [mem_selected_iff, List.mem_filter, decide_eq_true_iff]

/-- The texts of the files with these names below a folder that have one of the extensions. -/
def textsOf
    (extensions : List Text)
    (folder : Path)
    (walked : List (List Text)) :
    List Text :=
  (selected extensions (walked.map folder.descend)).map Path.toText

section Texts

variable
  {folder : Path}
  {walked : List (List Text)}

/-- What is found below a folder are the texts of what a walk lists there. -/
theorem find_of_walkFrom
    {disk : Disk}
    {root : FileRef}
    {excluded : List Text}
    (lists : disk.walkFrom excluded root = .ok (walked.map folder.descend))
    (distinct : walked.Nodup)
    (extensions : List Text) :
    find disk extensions excluded root = .ok (textsOf extensions folder walked) := by
  have pathsDistinct := distinct.map (Path.descend_injective folder)
  rw [textsOf, ← withExtensions_eq_selected pathsDistinct, find, lists]
  rfl

/-- The texts of files are those of the files that have an extension, in some order. -/
theorem textsOf_perm_filter
    (folder : Path)
    (distinct : walked.Nodup)
    (extensions : List Text) :
    (textsOf extensions folder walked).Perm
      (((walked.map folder.descend).filter fun path =>
        ∃ extension ∈ extensions, HasExtension path extension).map Path.toText) :=
  (selected_perm_filter (distinct.map (Path.descend_injective folder)) extensions).map _

/-- Files are taken apart in the same way as their texts. -/
theorem textsOf_perm
    {own : List (List Text)}
    {firsts : List Text}
    {below : Text → List (List Text)}
    (perm : walked.Perm (own ++ firsts.flatMap below))
    (distinct : walked.Nodup)
    (ownDistinct : own.Nodup)
    (belowDistinct : ∀ name ∈ firsts, (below name).Nodup)
    (extensions : List Text) :
    (textsOf extensions folder walked).Perm
      (textsOf extensions folder own ++
        firsts.flatMap fun name => textsOf extensions folder (below name)) := by
  have filtered :=
    ((perm.map folder.descend).filter fun path =>
      ∃ extension ∈ extensions, HasExtension path extension).map Path.toText
  rw [List.map_append, List.filter_append, List.map_append, List.map_flatMap,
    List.filter_flatMap, List.map_flatMap] at filtered
  have ownPart := (textsOf_perm_filter folder ownDistinct extensions).symm
  have belowParts :=
    List.Perm.flatMap_left firsts fun name member =>
      (textsOf_perm_filter folder (belowDistinct name member) extensions).symm
  exact
    (textsOf_perm_filter folder distinct extensions).trans
      (filtered.trans (ownPart.append belowParts))

/-- Which texts are those of files that have an extension. -/
theorem mem_textsOf_iff
    {extensions : List Text}
    {text : Text} :
    text ∈ textsOf extensions folder walked ↔
      ∃ names ∈ walked,
        (∃ extension ∈ extensions, HasExtension (folder.descend names) extension) ∧
          text = (folder.descend names).toText := by
  simp only [textsOf, List.mem_map, mem_selected_iff]
  constructor
  · rintro ⟨_, ⟨⟨names, member, rfl⟩, has⟩, rfl⟩
    exact ⟨names, member, has, rfl⟩
  · rintro ⟨names, member, has, rfl⟩
    exact ⟨_, ⟨⟨names, member, rfl⟩, has⟩, rfl⟩

/-- Files that are known from their texts have different ones. -/
theorem nodup_textsOf
    (distinct : walked.Nodup)
    (known : Set.InjOn Path.toText {path | path ∈ walked.map folder.descend})
    (extensions : List Text) :
    (textsOf extensions folder walked).Nodup := by
  have pathsDistinct := distinct.map (Path.descend_injective folder)
  apply List.Nodup.map_on _ (nodup_selected pathsDistinct extensions)
  intro path member other otherMember same
  exact known (mem_selected_iff.mp member).1 (mem_selected_iff.mp otherMember).1 same

end Texts

/-- The path of an own file has an extension if the name of the file ends with it. -/
theorem hasExtension_descend_name_iff
    {folder : Path}
    {name extension : Text} :
    HasExtension (folder.descend [name]) extension ↔ extension <:+ name := by
  rw [HasExtension, Path.name, Path.descend, List.getLast?_concat, Option.getD_some]

/--
What is found below a folder by extensions and excluded names, taken apart: the own files
of the folder and what is found below each of its sub-folders.  Nothing is found twice.
-/
structure IsSplit
    (disk : Disk)
    (extensions excluded : List Text)
    (folder : Path)
    (place : List Text)
    (all own subfolders : List Text)
    (found : Text → List Text) :
    Prop where
  areSubfolders : disk.AreSubfolders place excluded subfolders
  find_eq :
    ∀ name ∈ subfolders,
      find disk extensions excluded (.ofPath (folder.descend [name])) = .ok (found name)
  mem_own :
    ∀ text, text ∈ own ↔
      ∃ name, disk.IsOwnFile (.ofPath folder) place name ∧
        (∃ extension ∈ extensions, extension <:+ name) ∧
        text = (folder.descend [name]).toText
  nodup : all.Nodup
  perm : all.Perm (own ++ subfolders.flatMap found)

section Folder

variable
  {disk : Disk}
  {folder : Path}
  {place : List Text}

/-- What is found below a folder can be taken apart. -/
theorem exists_isSplit
    (proper : disk.root.Proper)
    (nulFree : ∀ name, disk.root.shapeAt? (place ++ [name]) = some .folder → '\x00' ∉ name)
    (normal : folder.IsNormal)
    (start : disk.IsWalkRoot (.ofPath folder) place)
    (noneAtEdge : folder = Path.workingFolder → disk.NoneAtEdge place)
    (extensions excluded : List Text) :
    ∃ all own subfolders found,
      find disk extensions excluded (.ofPath folder) = .ok all ∧
        IsSplit disk extensions excluded folder place all own subfolders found := by
  obtain ⟨walked, subfolders, below, parts⟩ :=
    Disk.exists_isWalkInParts proper nulFree normal start noneAtEdge excluded
  have known : Set.InjOn Path.toText {path | path ∈ walked.map folder.descend} := by
    apply @toText_injOn_of_isWalked disk (.ofPath folder) place proper.wellNamed
    intro names member
    exact (Disk.isWalked_iff_noneExcluded.mp ((parts.mem_iff names).mp member)).1
  refine
    ⟨textsOf extensions folder walked,
      textsOf extensions folder (walked.filter fun names => names.length = 1), subfolders,
      fun name => textsOf extensions folder (below name),
      find_of_walkFrom parts.lists parts.nodup extensions,
      { areSubfolders := parts.areSubfolders
        find_eq := ?_
        mem_own := ?_
        nodup := nodup_textsOf parts.nodup known extensions
        perm :=
          textsOf_perm parts.perm parts.nodup (parts.nodup.filter _) parts.below_nodup
            extensions }⟩
  · intro name member
    exact find_of_walkFrom (parts.below_lists name member) (parts.below_nodup name member) _
  · intro text
    rw [mem_textsOf_iff]
    constructor
    · rintro ⟨names, member, has, rfl⟩
      obtain ⟨isListed, single⟩ := List.mem_filter.mp member
      obtain ⟨name, rfl⟩ := List.length_eq_one_iff.mp (of_decide_eq_true single)
      simp only [hasExtension_descend_name_iff] at has
      have isOwn := (Disk.isWalked_singleton_iff start.isFolder).mp ((parts.mem_iff _).mp isListed)
      exact ⟨name, isOwn, has, rfl⟩
    · rintro ⟨name, isOwn, has, rfl⟩
      have isListed :=
        (parts.mem_iff [name]).mpr ((Disk.isWalked_singleton_iff start.isFolder).mpr isOwn)
      refine ⟨[name], List.mem_filter.mpr ⟨isListed, rfl⟩, ?_, rfl⟩
      simpa only [hasExtension_descend_name_iff] using has

/-- Which texts are found below a folder. -/
theorem mem_found_iff
    (wellNamed : disk.root.WellNamed)
    (start : disk.IsWalkRoot (.ofPath folder) place)
    {extensions excluded found : List Text}
    (finds : find disk extensions excluded (.ofPath folder) = .ok found)
    {text : Text} :
    text ∈ found ↔
      ∃ names, disk.IsWalked (.ofPath folder) place excluded names ∧
        (∃ extension ∈ extensions, HasExtension (folder.descend names) extension) ∧
          text = (folder.descend names).toText := by
  obtain ⟨walked, lists, members, ordered⟩ := start.walkFrom_eq wellNamed excluded
  have findsTexts := find_of_walkFrom lists (WalksBefore.nodup ordered) extensions
  rw [← Except.ok.inj (findsTexts.symm.trans finds), mem_textsOf_iff]
  simp only [members]
  rfl

end Folder

/--
What is found below a folder are its own files and what is found below each of its
sub-folders, as the same texts and each of them once, unless something below the working
folder is at the edge of what the disk takes.  Hence the numbers of files and the totals
of the parts add up to those of the folder, if the disk refuses none of the files.
-/
theorem find_isSplit
    {disk : Disk}
    {text : Text}
    {place : List Text}
    (proper : disk.root.Proper)
    (leads : disk.place? (.ofText text) = some place)
    (isFolder : disk.root.shapeAt? place = some .folder)
    (nulFree : ∀ name, disk.root.shapeAt? (place ++ [name]) = some .folder → '\x00' ∉ name)
    (noneAtEdge : Path.ofText text = Path.workingFolder → disk.NoneAtEdge place)
    (extensions excluded : List Text) :
    ∃ all own subfolders found,
      find disk extensions excluded (.ofPath (.ofText text)) = .ok all ∧
        IsSplit disk extensions excluded (.ofText text) place all own subfolders found ∧
        ((∀ file ∈ all, ¬ disk.RefusesPath (Counting.pathOf (.ofText file))) →
          ∃ whole ownTally tallyOf,
            (Counting.countFiles disk Counting.usualCharset (all.map .ofText)).result =
                .ok whole ∧
              (Counting.countFiles disk Counting.usualCharset (own.map .ofText)).result =
                .ok ownTally ∧
              (∀ name ∈ subfolders,
                (Counting.countFiles disk Counting.usualCharset
                    ((found name).map .ofText)).result =
                  .ok (tallyOf name)) ∧
              Tally.AddsUp whole ownTally (subfolders.map tallyOf)) := by
  have start : disk.IsWalkRoot (.ofPath (.ofText text)) place :=
    ⟨Path.toText_ofText_ne_nil text, Disk.size_le_of_place? leads, leads, isFolder⟩
  obtain ⟨all, own, subfolders, found, finds, isSplit⟩ :=
    exists_isSplit proper nulFree (Path.isNormal_ofText text) start noneAtEdge extensions
      excluded
  refine ⟨all, own, subfolders, found, finds, isSplit, ?_⟩
  intro taken
  have partsTaken :
      ∀ file ∈ own ++ subfolders.flatMap found,
        ¬ disk.RefusesPath (Counting.pathOf (.ofText file)) :=
    fun file member => taken file (isSplit.perm.mem_iff.mpr member)
  refine
    ⟨all.map (Counting.recordOf disk), own.map (Counting.recordOf disk),
      fun name => (found name).map (Counting.recordOf disk),
      Counting.countFiles_eq_map_recordOf taken, ?_, ?_, ?_⟩
  · exact
      Counting.countFiles_eq_map_recordOf fun file member =>
        partsTaken file (List.mem_append_left _ member)
  · intro name isSubfolder
    exact
      Counting.countFiles_eq_map_recordOf fun file member =>
        partsTaken file
          (List.mem_append_right _ (List.mem_flatMap.mpr ⟨name, isSubfolder, member⟩))
  · apply Tally.addsUp_of_perm
    have records := isSplit.perm.map (Counting.recordOf disk)
    rwa [List.map_append, List.map_flatMap] at records

/-- A folder with a file, a sub-folder with a file, one to leave out, and a link to a folder. -/
def partsFolder : Node :=
  .folder
    [ ("b.m".toList, .file (.bytes [0x78, 0x0A])),
      ("sub".toList, .folder [("a.m".toList, .file (.bytes [0x25, 0x0A]))]),
      ("skip".toList, .folder [("c.m".toList, .file (.bytes []))]),
      ("alias.m".toList, .link "sub".toList) ]

/-- A disk with this folder in it. -/
def partsDisk : Disk :=
  ⟨.folder [("top".toList, partsFolder)], []⟩

/-- This disk is proper. -/
theorem proper_partsDisk :
    partsDisk.root.Proper := by
  have single (name : Text) (content : List UInt8)
      (named : Node.IsEntryName name ∧ Node.IsPlainName name) :
      (Node.folder [(name, .file (.bytes content))]).Proper := by
    refine Node.proper_folder (by simp) (by simpa using named) ?_
    rw [List.forall_mem_singleton]
    exact Node.proper_of_not_isFolder rfl
  refine Node.proper_folder (by decide) (by decide) ?_
  rw [List.forall_mem_singleton]
  refine Node.proper_folder (by decide) (by decide) ?_
  simp only [List.forall_mem_cons]
  exact
    ⟨Node.proper_of_not_isFolder rfl, single _ _ (by decide), single _ _ (by decide),
      Node.proper_of_not_isFolder rfl, nofun⟩

/-- Two files are found, one of the folder itself and one of a sub-folder, and add up. -/
theorem find_isSplit_partsDisk :
    ∃ all own subfolders found,
      all = ["top/b.m".toList, "top/sub/a.m".toList] ∧
        IsSplit partsDisk [".m".toList] ["skip".toList] (Path.ofText "top".toList)
          ["top".toList] all own subfolders found ∧
        ∃ whole ownTally tallyOf,
          (Counting.countFiles partsDisk Counting.usualCharset (all.map .ofText)).result =
              .ok whole ∧
            Tally.AddsUp whole ownTally (subfolders.map tallyOf) := by
  have nulFree (name : Text)
      (isFolder : partsDisk.root.shapeAt? (["top".toList] ++ [name]) = some .folder) :
      '\x00' ∉ name := by
    have atTop : partsDisk.root.find? ["top".toList] = some partsFolder := rfl
    rw [Node.shapeAt?_append atTop] at isFolder
    have wellNamed := (proper_partsDisk.wellNamed.find? atTop).1
    obtain ⟨_, member, _⟩ := wellNamed.shapeAt?_cons_iff.mp isFolder
    exact
      (by decide : ∀ entry ∈ ["b.m".toList, "sub".toList, "skip".toList, "alias.m".toList],
        '\x00' ∉ entry)
        name (List.mem_map_of_mem (f := Prod.fst) member)
  have notWorkingFolder : Path.ofText "top".toList ≠ Path.workingFolder := by decide
  obtain ⟨all, own, subfolders, found, finds, isSplit, counts⟩ :=
    @find_isSplit partsDisk "top".toList ["top".toList] proper_partsDisk (by decide +kernel)
      (by decide +kernel) nulFree (fun same => (notWorkingFolder same).elim)
      [".m".toList] ["skip".toList]
  have computed :
      find partsDisk [".m".toList] ["skip".toList] (.ofPath (.ofText "top".toList)) =
        .ok ["top/b.m".toList, "top/sub/a.m".toList] := by
    decide +kernel
  obtain rfl := Except.ok.inj (finds.symm.trans computed)
  refine ⟨_, own, subfolders, found, rfl, isSplit, ?_⟩
  obtain ⟨whole, ownTally, tallyOf, counted, _, _, addsUp⟩ := counts (by
    intro file member
    rw [← Disk.isFile_answers_iff]
    rcases List.mem_pair.mp member with rfl | rfl
    · exact ⟨true, by decide +kernel⟩
    · exact ⟨true, by decide +kernel⟩)
  exact ⟨whole, ownTally, tallyOf, counted, addsUp⟩

/-- A name that takes as many bytes as a name can. -/
def longestName : Text :=
  List.replicate 255 'n'

/-- A file below the given number of folders, all of them with this name. -/
def nested :
    Nat → Node
  | 0 => .folder [("f.m".toList, .file (.bytes []))]
  | depth + 1 => .folder [(longestName, nested depth)]

/-- This name is one that an entry can have. -/
theorem named_longestName :
    Node.IsEntryName longestName ∧ Node.IsPlainName longestName := by
  have onlyN {c : Char} (member : c ∈ longestName) : c = 'n' := List.eq_of_mem_replicate member
  have bytes : Utf8.size longestName = 255 := by
    rw [Utf8.size, Utf8.encode, longestName, List.length_flatMap, List.map_replicate]
    exact List.sum_replicate_nat
  have shorter {name : Text} (size : Utf8.size name ≠ 255) : longestName ≠ name := by
    rintro rfl
    exact size bytes
  refine ⟨⟨List.cons_ne_nil _ _, ?_⟩, shorter (by decide), shorter (by decide), bytes.le⟩
  intro slash
  cases onlyN slash

/-- Folders in each other are proper, however many there are. -/
theorem proper_nested
    (depth : Nat) :
    (nested depth).Proper := by
  induction depth with
  | zero =>
      refine Node.proper_folder (by decide) (by decide) ?_
      rw [List.forall_mem_singleton]
      exact Node.proper_of_not_isFolder rfl
  | succ depth inductionHypothesis =>
      refine Node.proper_folder (List.nodup_singleton _) ?_ ?_
      · rw [List.forall_mem_singleton]
        exact named_longestName
      · rwa [List.forall_mem_singleton]

/-- A disk with a file below sixteen folders, the innermost of which is at the edge. -/
def edgeDisk : Disk :=
  ⟨nested 16, []⟩

/-- The names that lead from the outermost folder of this disk to its file. -/
def edgeNames : List Text :=
  List.replicate 15 longestName ++ ["f.m".toList]

/-- Through as many folders with that name a way leads to the folders that are left. -/
theorem shapeAt?_nested
    (depth rest : Nat)
    (names : List Text) :
    (nested (rest + depth)).shapeAt? (List.replicate depth longestName ++ names) =
      (nested rest).shapeAt? names := by
  induction depth with
  | zero => rfl
  | succ depth inductionHypothesis =>
      rw [List.replicate_succ, List.cons_append, ← Nat.add_assoc, nested,
        Node.shapeAt?_folder_cons, Text.lookup_cons_eq, if_pos rfl]
      exact inductionHypothesis

/-- The innermost folder is in reach from the outermost one, but not from the working folder. -/
theorem inReach_edgeNames :
    Node.InReach (Disk.room (.ofPath (Path.workingFolder.descend [longestName])))
        edgeNames.dropLast ∧
      ¬ Node.InReach (Disk.room (.ofPath Path.workingFolder))
        (longestName :: edgeNames).dropLast := by
  decide +kernel

/-- The walk from the outermost folder lists the file. -/
theorem isWalked_edgeNames :
    edgeDisk.IsWalked (.ofPath (Path.workingFolder.descend [longestName])) [longestName] []
      edgeNames where
  below := by simp [edgeNames]
  throughFolders := shapeAt?_nested 16 0 []
  inReach := inReach_edgeNames.1
  noneExcluded := by simp
  ends := .inl ⟨.bytes [], shapeAt?_nested 16 0 ["f.m".toList]⟩

/-- The walk from the working folder does not list it. -/
theorem not_isWalked_edgeNames :
    ¬ edgeDisk.IsWalked (.ofPath Path.workingFolder) [] [] (longestName :: edgeNames) := by
  intro walked
  exact inReach_edgeNames.2 walked.inReach

/-- What is found below a folder cannot always be taken apart. -/
theorem find_not_always_isSplit :
    ¬ ∀ (disk : Disk) (text : Text) (place extensions excluded : List Text),
      disk.root.Proper →
      disk.place? (.ofText text) = some place →
      disk.root.shapeAt? place = some .folder →
      (∀ name, disk.root.shapeAt? (place ++ [name]) = some .folder → '\x00' ∉ name) →
      ∃ all own subfolders found,
        find disk extensions excluded (.ofPath (.ofText text)) = .ok all ∧
          IsSplit disk extensions excluded (.ofText text) place all own subfolders found := by
  intro always
  have proper : edgeDisk.root.Proper := proper_nested 16
  have isFolder : edgeDisk.root.shapeAt? ([] ++ [longestName]) = some .folder := by
    decide +kernel
  have noNul : '\x00' ∉ longestName := by decide +kernel
  have nulFree (name : Text)
      (found : edgeDisk.root.shapeAt? ([] ++ [name]) = some .folder) : '\x00' ∉ name := by
    obtain ⟨_, member, _⟩ := proper.wellNamed.shapeAt?_cons_iff.mp found
    rwa [(Prod.mk.inj (List.mem_singleton.mp member)).1]
  have start : edgeDisk.IsWalkRoot (.ofPath Path.workingFolder) [] :=
    ⟨by decide, by decide, by decide +kernel, by decide +kernel⟩
  have normal : Path.workingFolder.IsNormal := nofun
  have partStart := start.descend_name proper normal isFolder noNul (by decide +kernel)
  have atWorkingFolder : Path.ofText ".".toList = Path.workingFolder := by decide
  obtain ⟨all, own, subfolders, found, finds, isSplit⟩ :=
    always edgeDisk ".".toList [] [".m".toList] [] proper (by decide +kernel)
      (by decide +kernel) nulFree
  rw [atWorkingFolder] at finds isSplit
  -- The file is found below the outermost folder, so it should be found below both.
  have isSubfolder : longestName ∈ subfolders :=
    (isSplit.areSubfolders.mem_iff longestName).mpr ⟨isFolder, List.not_mem_nil⟩
  have inPart :
      (Path.workingFolder.descend (longestName :: edgeNames)).toText ∈ found longestName := by
    rw [mem_found_iff proper.wellNamed partStart (isSplit.find_eq longestName isSubfolder)]
    have has :
        ∃ extension ∈ [".m".toList],
          HasExtension ((Path.workingFolder.descend [longestName]).descend edgeNames)
            extension :=
      ⟨_, List.mem_singleton_self _, by decide +kernel⟩
    exact ⟨edgeNames, isWalked_edgeNames, has, rfl⟩
  have inAll := isSplit.perm.mem_iff.mpr
    (List.mem_append_right own (List.mem_flatMap.mpr ⟨longestName, isSubfolder, inPart⟩))
  obtain ⟨names, walked, _, same⟩ := (mem_found_iff proper.wellNamed start finds).mp inAll
  have noSlashes : ∀ name ∈ longestName :: edgeNames, '/' ∉ name := by decide +kernel
  have sameNames : longestName :: edgeNames = names :=
    Path.toText_descend_inj (List.cons_ne_nil _ _) walked.below noSlashes
      (fun name member => (walked.named proper.wellNamed name member).2) same
  exact not_isWalked_edgeNames (sameNames ▸ walked)

end Selection

end LineTally
