import LineTally.Proofs.Disk.Way

namespace LineTally

/-!
# Walking a sub-folder by itself

The walk of a folder goes through each of its sub-folders as the walk of the sub-folder
itself does.  The paths there have the same texts either way, so they are too long for
the disk either way.  Only the working folder is told apart: the walk spells the paths
below it with a dot and a slash in front, for which a path by itself has no need.
-/

namespace Path

/-- The working folder as a path. -/
def workingFolder : Path :=
  ⟨.here, []⟩

/-- The text of a path with names does not end with a slash. -/
theorem getLast?_toText_ne_slash
    {path : Path}
    (normal : path.IsNormal)
    (someParts : path.parts ≠ []) :
    path.toText.getLast? ≠ some '/' := by
  obtain ⟨anchor, parts⟩ := path
  obtain ⟨front, last, rfl⟩ := (List.eq_nil_or_concat' parts).resolve_left someParts
  obtain ⟨notEmpty, noSlash, _⟩ := normal last (List.mem_append_right _ List.mem_cons_self)
  obtain ⟨before, endsWith⟩ := exists_toText_descend_eq ⟨anchor, front⟩
  have ends := endsWith [last] (List.cons_ne_nil _ _)
  rw [descend, List.intercalate_singleton] at ends
  rw [ends, List.getLast?_append_of_ne_nil _ notEmpty]
  intro isSlash
  exact noSlash (List.mem_of_getLast? isSlash)

/-- The text of a path one name below a folder. -/
theorem toText_descend_name
    {folder : Path}
    (normal : folder.IsNormal)
    (name : Text) :
    (folder.descend [name]).toText =
      (if folder = workingFolder then [] else Disk.asStart folder.toText) ++ name := by
  obtain ⟨anchor, parts⟩ := folder
  cases parts with
  | nil =>
      cases anchor <;> simp [descend, toText, anchorText, Disk.asStart, workingFolder]
  | cons first rest =>
      have notWorkingFolder : (⟨anchor, first :: rest⟩ : Path) ≠ workingFolder := by
        intro same
        cases congrArg parts same
      have notSlash := getLast?_toText_ne_slash normal (List.cons_ne_nil first rest)
      rw [if_neg notWorkingFolder, Disk.asStart, if_neg notSlash]
      have joined := intercalate_append (List.cons_ne_nil first rest) (List.cons_ne_nil name [])
      rw [List.intercalate_singleton] at joined
      cases anchor <;> simp only [descend, toText, List.cons_append] at joined ⊢ <;>
        rw [joined] <;> simp

/-- A path stays in its normal form below a proper name. -/
theorem IsNormal.descend_name
    {folder : Path}
    (normal : folder.IsNormal)
    {name : Text}
    (named : Node.IsEntryName name ∧ Node.IsPlainName name) :
    (folder.descend [name]).IsNormal := by
  intro part member
  rcases List.mem_append.mp member with inFolder | isName
  · exact normal part inFolder
  · obtain ⟨isEntryName, isPlainName⟩ := named
    rw [List.mem_singleton.mp isName]
    exact ⟨isEntryName.1, isEntryName.2, isPlainName.1⟩

end Path

namespace Disk

open LineTally.Path (workingFolder)

/-- How many bytes are left for names below a folder in the texts of the paths there. -/
def roomInTexts
    (folder : Path) :
    Nat :=
  if folder = workingFolder then maxPathSize else room (.ofPath folder)

section Room

variable
  {folder : Path}
  {name : Text}

/-- The path of a sub-folder is not too long if there is room for its name. -/
theorem size_toText_descend_le_iff
    (normal : folder.IsNormal)
    (named : name ≠ []) :
    Utf8.size (folder.descend [name]).toText ≤ maxPathSize ↔
      Utf8.size name ≤ roomInTexts folder := by
  have someBytes := Utf8.size_pos named
  rw [Path.toText_descend_name normal, roomInTexts]
  split_ifs with atWorkingFolder
  · rw [List.nil_append]
  · rw [Utf8.size_append, room, FileRef.toText]
    omega

/-- Below a sub-folder there is as much room as is left after its name and a slash. -/
theorem room_descend_name
    (normal : folder.IsNormal)
    (named : Node.IsEntryName name ∧ Node.IsPlainName name) :
    room (.ofPath (folder.descend [name])) = roomInTexts folder - Utf8.size name - 1 := by
  have slash : Utf8.size ['/'] = 1 := by decide
  have someParts : (folder.descend [name]).parts ≠ [] := by
    simp [Path.descend]
  have notSlash := Path.getLast?_toText_ne_slash (normal.descend_name named) someParts
  rw [room, FileRef.toText, asStart, if_neg notSlash, Utf8.size_append, slash,
    Path.toText_descend_name normal, roomInTexts]
  split_ifs with atWorkingFolder
  · rw [List.nil_append]
    omega
  · rw [Utf8.size_append, room, FileRef.toText]
    omega

/-- Names in a sub-folder are in reach from it if the texts of their paths leave room for them. -/
theorem inReach_roomInTexts_cons_iff
    (normal : folder.IsNormal)
    (named : Node.IsEntryName name ∧ Node.IsPlainName name)
    {rest : List Text}
    (restNamed : ∀ next ∈ rest, Node.IsEntryName next) :
    Node.InReach (roomInTexts folder) (name :: rest) ↔
      Utf8.size (folder.descend [name]).toText ≤ maxPathSize ∧
        Node.InReach (room (.ofPath (folder.descend [name]))) rest := by
  rw [Node.inReach_cons_iff restNamed, size_toText_descend_le_iff normal named.1.1,
    room_descend_name normal named]

end Room

/-- There is no NUL in a path one name below a folder if none is in either of them. -/
theorem holdsNul_descend_name
    {folder : Path}
    (folderNoNul : holdsNul folder = false)
    {name : Text}
    (noNul : '\x00' ∉ name) :
    holdsNul (folder.descend [name]) = false := by
  rw [holdsNul_eq_false_iff] at folderNoNul ⊢
  intro part member
  rcases List.mem_append.mp member with inFolder | isName
  · exact folderNoNul part inFolder
  · rwa [List.mem_singleton.mp isName]

/--
No folder or link below a place has a path that fits by itself, but not with a dot and a
slash in front of it.
-/
def NoneAtEdge
    (disk : Disk)
    (place : List Text) :
    Prop :=
  ∀ names shape, disk.root.shapeAt? (place ++ names) = some shape →
    (∀ body, shape ≠ .file body) →
    Node.InReach maxPathSize names →
    Node.InReach (maxPathSize - 2) names

section Subfolder

variable
  {disk : Disk}
  {folder : Path}
  {place : List Text}

/-- Unless something is at the edge, a walk reaches what has a text that is not too long. -/
theorem inReach_room_iff
    (noneAtEdge : folder = workingFolder → disk.NoneAtEdge place)
    {names : List Text}
    {shape : Node.Shape}
    (found : disk.root.shapeAt? (place ++ names) = some shape)
    (notFile : ∀ body, shape ≠ .file body) :
    Node.InReach (room (.ofPath folder)) names ↔ Node.InReach (roomInTexts folder) names := by
  rw [roomInTexts]
  split_ifs with atWorkingFolder
  · have less : room (.ofPath folder) = maxPathSize - 2 := by
      rw [atWorkingFolder]
      decide
    rw [less]
    constructor
    · intro inReach
      exact inReach.trans (Nat.sub_le _ _)
    · exact noneAtEdge atWorkingFolder names shape found notFile
  · rfl

/-- A walk does not list a folder. -/
theorem not_isWalked_of_isFolder
    {root : FileRef}
    {excluded names : List Text}
    (isFolder : disk.root.shapeAt? (place ++ names) = some .folder) :
    ¬ disk.IsWalked root place excluded names := by
  intro walked
  rcases walked.ends with ⟨_, isFile⟩ | ⟨_, isLink, _⟩
  · cases isFolder.symm.trans isFile
  · cases isFolder.symm.trans isLink

/-- From a folder the name of a sub-folder leads to it. -/
theorem follow_name
    (proper : disk.root.Proper)
    {name : Text}
    (isFolder : disk.root.shapeAt? (place ++ [name]) = some .folder)
    (onLink : List Text → List Text → Except DiskError Place) :
    follow disk.root .look onLink place [name] =
      .ok ⟨place ++ [name], disk.root.find? (place ++ [name])⟩ := by
  obtain ⟨⟨notEmpty, _⟩, notDot, notUp, fits⟩ :=
    proper.names isFolder name (List.mem_append_right _ List.mem_cons_self)
  rw [follow_cons, Node.shapeAt?_of_append isFolder, isFolder]
  simp only [reduceCtorEq, decide_false, Bool.false_and, Bool.false_eq_true, if_false, slashName,
    notEmpty, notDot, notUp, Bool.or_false, fits.not_gt]
  rfl

/-- A path goes on from a folder to a sub-folder of it, unless it gets too long there. -/
theorem place?_descend_name
    (proper : disk.root.Proper)
    {name : Text}
    (isFolder : disk.root.shapeAt? (place ++ [name]) = some .folder)
    (leads : disk.place? folder = some place)
    (noNul : '\x00' ∉ name)
    (fits : Utf8.size (folder.descend [name]).toText ≤ maxPathSize) :
    disk.place? (folder.descend [name]) = some (place ++ [name]) := by
  obtain ⟨folderNoNul, _, folderLeads⟩ := place?_eq_some_iff.mp leads
  obtain ⟨found, arrived, atPlace⟩ := leads?_eq_some_iff.mp folderLeads
  have goesOn :=
    followLinks_append (Node.shapeAt?_of_append isFolder) (follow_name proper isFolder) arrived
      atPlace
  exact place?_eq_some_iff.mpr
    ⟨holdsNul_descend_name folderNoNul noNul, fits, leads?_eq_some_iff.mpr ⟨_, goesOn, rfl⟩⟩

variable
  (proper : disk.root.Proper)
  (normal : folder.IsNormal)
  {name : Text}
  (isFolder : disk.root.shapeAt? (place ++ [name]) = some .folder)

include proper normal isFolder

/-- Unless something is at the edge, a walk reaches through a sub-folder what it reaches itself. -/
theorem inReach_room_cons_iff
    (noneAtEdge : folder = workingFolder → disk.NoneAtEdge place)
    {names : List Text}
    {shape : Node.Shape}
    (found : disk.root.shapeAt? (place ++ name :: names) = some shape)
    (notFile : ∀ body, shape ≠ .file body) :
    Node.InReach (room (.ofPath folder)) (name :: names) ↔
      Utf8.size (folder.descend [name]).toText ≤ maxPathSize ∧
        Node.InReach (room (.ofPath (folder.descend [name]))) names := by
  have named := proper.names isFolder name (List.mem_append_right _ List.mem_cons_self)
  have restNamed : ∀ other ∈ names, Node.IsEntryName other := by
    intro other member
    exact (proper.names found other (List.mem_append_right _ (List.mem_cons_of_mem _ member))).1
  rw [inReach_room_iff noneAtEdge found notFile,
    inReach_roomInTexts_cons_iff normal named restNamed]

/-- Below a sub-folder a walk lists what the walk of the sub-folder itself lists. -/
theorem isWalked_cons_iff
    (noneAtEdge : folder = workingFolder → disk.NoneAtEdge place)
    {excluded rest : List Text} :
    disk.IsWalked (.ofPath folder) place excluded (name :: rest) ↔
      name ∉ excluded ∧
        Utf8.size (folder.descend [name]).toText ≤ maxPathSize ∧
        disk.IsWalked (.ofPath (folder.descend [name])) (place ++ [name]) excluded rest := by
  cases rest with
  | nil =>
      constructor
      · intro walked
        exact (not_isWalked_of_isFolder isFolder walked).elim
      · rintro ⟨_, _, walked⟩
        exact (walked.below rfl).elim
  | cons next more =>
      -- What is told of the folders on the way, and then of the file at its end.
      have reaches (names : List Text) (shape : Node.Shape) :=
        @inReach_room_cons_iff disk folder place proper normal name isFolder noneAtEdge names shape
      constructor
      · rintro ⟨_, throughFolders, inReach, noneExcluded, ends⟩
        rw [List.dropLast_cons_cons] at throughFolders inReach noneExcluded
        obtain ⟨notExcluded, restNoneExcluded⟩ := List.forall_mem_cons.mp noneExcluded
        obtain ⟨fits, restInReach⟩ := (reaches _ _ throughFolders nofun).mp inReach
        rw [List.append_cons] at throughFolders
        refine
          ⟨notExcluded, fits, List.cons_ne_nil _ _, throughFolders, restInReach,
            restNoneExcluded, ?_⟩
        rcases ends with ⟨body, isFile⟩ | ⟨target, isLink, notToFolder⟩
        · rw [List.append_cons] at isFile
          exact .inl ⟨body, isFile⟩
        · rw [reaches _ _ isLink nofun] at notToFolder
          rw [List.append_cons] at isLink notToFolder
          exact .inr ⟨target, isLink, fun restReached => notToFolder ⟨fits, restReached⟩⟩
      · rintro ⟨notExcluded, fits, _, throughFolders, restInReach, restNoneExcluded, ends⟩
        rw [← List.append_cons] at throughFolders
        refine ⟨List.cons_ne_nil _ _, ?_, ?_, ?_, ?_⟩
        · rwa [List.dropLast_cons_cons]
        · rw [List.dropLast_cons_cons, reaches _ _ throughFolders nofun]
          exact ⟨fits, restInReach⟩
        · rw [List.dropLast_cons_cons]
          exact List.forall_mem_cons.mpr ⟨notExcluded, restNoneExcluded⟩
        · rcases ends with ⟨body, isFile⟩ | ⟨target, isLink, notToFolder⟩
          · rw [← List.append_cons] at isFile
            exact .inl ⟨body, isFile⟩
          · rw [← List.append_cons] at isLink notToFolder
            refine .inr ⟨target, isLink, ?_⟩
            rw [reaches _ _ isLink nofun]
            exact fun reached => notToFolder reached.2

/-- A sub-folder whose path is not too long is one that a walk can start from. -/
theorem IsWalkRoot.descend_name
    (start : disk.IsWalkRoot (.ofPath folder) place)
    (noNul : '\x00' ∉ name)
    (fits : Utf8.size (folder.descend [name]).toText ≤ maxPathSize) :
    disk.IsWalkRoot (.ofPath (folder.descend [name])) (place ++ [name]) where
  named := by
    have notEmpty :=
      (proper.names isFolder name (List.mem_append_right _ List.mem_cons_self)).1.1
    rw [FileRef.toText, Path.toText_descend_name normal]
    exact List.append_ne_nil_of_right_ne_nil _ notEmpty
  notTooLong := fits
  leads := place?_descend_name proper isFolder start.leads noNul fits
  isFolder := isFolder

/--
The walk of a sub-folder that is not excluded lists what the walk of the folder lists
below its name, each of these files once.
-/
theorem exists_walkFrom_descend_name
    (noneAtEdge : folder = workingFolder → disk.NoneAtEdge place)
    (start : disk.IsWalkRoot (.ofPath folder) place)
    (noNul : '\x00' ∉ name)
    {excluded : List Text}
    (notExcluded : name ∉ excluded) :
    ∃ walked : List (List Text),
      disk.walkFrom excluded (.ofPath (folder.descend [name])) =
          .ok (walked.map fun names => folder.descend (name :: names)) ∧
        walked.Nodup ∧
        ∀ names, names ∈ walked ↔
          disk.IsWalked (.ofPath folder) place excluded (name :: names) := by
  have below :
      (folder.descend [name]).descend = fun names => folder.descend (name :: names) := by
    funext names
    rw [Path.descend, Path.descend, Path.descend, List.append_assoc, List.singleton_append]
  have splits (names : List Text) :=
    @isWalked_cons_iff disk folder place proper normal name isFolder noneAtEdge excluded names
  by_cases fits : Utf8.size (folder.descend [name]).toText ≤ maxPathSize
  · have nameStart := start.descend_name proper normal isFolder noNul fits
    obtain ⟨walked, lists, members, ordered⟩ :=
      nameStart.walkFrom_eq proper.wellNamed excluded
    refine ⟨walked, ?_, WalksBefore.nodup ordered, ?_⟩
    · rwa [FileRef.toPath, below] at lists
    · intro names
      rw [members, splits]
      simp only [notExcluded, fits, not_false_eq_true, true_and]
  · have startNoNul : holdsNul folder = false := (resolve_of_place? start.leads).1
    have noStart : disk.walkStart? (.ofPath (folder.descend [name])) = .ok none := by
      have tooLong : maxPathSize < Utf8.size (folder.descend [name]).toText := not_le.mp fits
      rw [walkStart?]
      simp only [FileRef.toText, FileRef.toPath, tooLong, decide_true, Bool.or_true, if_true,
        holdsNul_descend_name startNoNul noNul, Bool.false_eq_true, if_false]
    refine ⟨[], ?_, List.nodup_nil, ?_⟩
    · rw [walkFrom, noStart]
      rfl
    · intro names
      rw [splits]
      simp only [fits, List.not_mem_nil, false_and, and_false]

end Subfolder

end Disk

end LineTally
