import LineTally.Proofs.Disk.Content

namespace LineTally

/-!
# Editing files

Files that are made, filled anew or removed change nothing for the paths that lead
elsewhere.  A way to another place may break off at a name where it went on before,
but it ends at the same names or fails both before and after, and only a name that
is too long fails in a way of its own.
-/

namespace Node

/-- There is a file or nothing at all at the end of the given names. -/
def FileOrNothing
    (tree : Node)
    (names : List Text) :
    Prop :=
  tree.shapeAt? names = none ∨ ∃ body, tree.shapeAt? names = some (.file body)

/-- What is a file or nothing at all is no folder. -/
theorem FileOrNothing.notFolder
    {tree : Node}
    {names : List Text}
    (fileOrNothing : tree.FileOrNothing names) :
    tree.shapeAt? names ≠ some .folder := by
  rcases fileOrNothing with nothing | ⟨body, isFile⟩
  · rw [nothing]
    nofun
  · rw [isFile]
    nofun

/-- Two trees differ only in the files that they have, and in the bytes of these. -/
def EditsFiles
    (tree later : Node) :
    Prop :=
  ∀ names,
    later.shapeAt? names = tree.shapeAt? names ∨
      tree.FileOrNothing names ∧ later.FileOrNothing names

/-- What is a file or nothing at all stays so when files are edited. -/
theorem EditsFiles.fileOrNothing
    {tree later : Node}
    (edits : tree.EditsFiles later)
    {names : List Text}
    (before : tree.FileOrNothing names) :
    later.FileOrNothing names := by
  rcases edits names with same | ⟨_, after⟩
  · rwa [FileOrNothing, same]
  · exact after

/-- Folders stay where they are when files are edited, and no new ones come. -/
theorem EditsFiles.isFolder_iff
    {tree later : Node}
    (edits : tree.EditsFiles later)
    {names : List Text} :
    later.shapeAt? names = some .folder ↔ tree.shapeAt? names = some .folder := by
  rcases edits names with same | ⟨before, after⟩
  · rw [same]
  · exact iff_of_false after.notFolder before.notFolder

/-- Files of a tree that are edited twice are edited. -/
theorem EditsFiles.trans
    {tree middle later : Node}
    (first : tree.EditsFiles middle)
    (second : middle.EditsFiles later) :
    tree.EditsFiles later := by
  intro names
  rcases second names with same | ⟨before, after⟩
  · rw [FileOrNothing, FileOrNothing, same]
    exact first names
  · rcases first names with sameBefore | ⟨earlier, _⟩
    · rw [FileOrNothing, sameBefore] at before
      exact .inr ⟨before, after⟩
    · exact .inr ⟨earlier, after⟩

end Node

/-- Two disks differ only in the files that they have, and in the bytes of these. -/
structure Disk.EditsFiles
    (disk later : Disk) :
    Prop where
  here : later.here = disk.here
  root : disk.root.EditsFiles later.root

namespace Disk

/--
Two ways end at the same names, or both fail, and then both or neither since
something is too long.
-/
inductive SameWay : Except DiskError Place → Except DiskError Place → Prop where
  | arrive
      (names : List Text)
      (node laterNode : Option Node) :
      SameWay (.ok ⟨names, node⟩) (.ok ⟨names, laterNode⟩)
  | tooLong :
      SameWay (.error .tooLong) (.error .tooLong)
  | fail
      {error laterError : DiskError}
      (notLong : error ≠ .tooLong)
      (laterNotLong : laterError ≠ .tooLong) :
      SameWay (.error error) (.error laterError)

/-- No way goes on from a file or from nothing. -/
theorem follow_cons_of_fileOrNothing
    {root : Node}
    {folder : List Text}
    (nothing : root.FileOrNothing folder)
    (purpose : Purpose)
    (onLink : List Text → List Text → Except DiskError Place)
    (name : Text)
    (rest : List Text) :
    ∃ error, error ≠ .tooLong ∧
      follow root purpose onLink folder (name :: rest) = .error error := by
  rw [follow_cons]
  rcases nothing with nothing | ⟨body, file⟩
  · rw [nothing]
    exact ⟨.missing, nofun, rfl⟩
  · rw [file]
    exact ⟨.notFolder, nofun, rfl⟩

/-- The same names lead the same way before and after files are edited. -/
theorem follow_sameWay
    {root later : Node}
    (edits : root.EditsFiles later)
    (purpose : Purpose)
    {onLink laterOnLink : List Text → List Text → Except DiskError Place}
    (linksSame : ∀ folder names, SameWay (onLink folder names) (laterOnLink folder names))
    (folder names : List Text) :
    SameWay
      (follow root purpose onLink folder names)
      (follow later purpose laterOnLink folder names) := by
  induction names generalizing folder with
  | nil =>
      exact .arrive folder _ _
  | cons name rest inductionHypothesis =>
      rcases edits folder with sameFolder | ⟨before, after⟩
      case inr =>
        obtain ⟨error, notLong, failed⟩ :=
          follow_cons_of_fileOrNothing before purpose onLink name rest
        obtain ⟨laterError, laterNotLong, laterFailed⟩ :=
          follow_cons_of_fileOrNothing after purpose laterOnLink name rest
        rw [failed, laterFailed]
        exact .fail notLong laterNotLong
      rw [follow_cons, follow_cons, sameFolder]
      rcases root.shapeAt? folder with _ | (_ | _ | _)
      · exact .fail nofun nofun
      · exact .fail nofun nofun
      · exact .fail nofun nofun
      simp only
      split_ifs
      · exact .fail nofun nofun
      · exact inductionHypothesis folder
      · exact inductionHypothesis folder.dropLast
      · exact .tooLong
      rcases edits (folder ++ [name]) with sameEntry | ⟨before, after⟩
      · rw [sameEntry]
        rcases root.shapeAt? (folder ++ [name]) with _ | (_ | target | _)
        · cases rest with
          | nil =>
              exact .arrive _ _ _
          | cons next rest =>
              exact .fail nofun nofun
        · exact inductionHypothesis _
        · simp only
          split_ifs
          · exact .fail nofun nofun
          · exact linksSame _ _
        · exact inductionHypothesis _
      -- The way ends at an edited file, or breaks off there whether it is there or not.
      cases rest with
      | nil =>
          rcases before with before | ⟨body, before⟩ <;>
            rcases after with after | ⟨laterBody, after⟩ <;>
            rw [before, after] <;>
            exact .arrive _ _ _
      | cons next rest =>
          obtain ⟨error, notLong, failed⟩ :=
            follow_cons_of_fileOrNothing before purpose onLink next rest
          obtain ⟨laterError, laterNotLong, laterFailed⟩ :=
            follow_cons_of_fileOrNothing after purpose laterOnLink next rest
          rcases before with before | ⟨body, before⟩ <;>
            rcases after with after | ⟨laterBody, after⟩ <;>
            simp only [before, after, failed, laterFailed]
          · exact .fail nofun nofun
          · exact .fail nofun laterNotLong
          · exact .fail notLong nofun
          · exact .fail notLong laterNotLong

/-- The same names lead the same way over links before and after files are edited. -/
theorem followLinks_sameWay
    {root later : Node}
    (edits : root.EditsFiles later)
    (purpose : Purpose)
    (links : Nat)
    (folder names : List Text) :
    SameWay
      (followLinks root purpose links folder names)
      (followLinks later purpose links folder names) := by
  induction links generalizing folder names with
  | zero =>
      apply follow_sameWay edits
      intro folder names
      exact .fail nofun nofun
  | succ links inductionHypothesis =>
      apply follow_sameWay edits
      exact inductionHypothesis

namespace EditsFiles

variable {disk later : Disk}

/-- Files that are edited twice are edited. -/
theorem trans
    {last : Disk}
    (edits : disk.EditsFiles later)
    (editsAgain : later.EditsFiles last) :
    disk.EditsFiles last where
  here := editsAgain.here.trans edits.here
  root := edits.root.trans editsAgain.root

/-- A path is resolved the same way before and after files are edited. -/
theorem resolveFor_sameWay
    (edits : disk.EditsFiles later)
    (purpose : Purpose)
    (path : Path) :
    SameWay (disk.resolveFor purpose path) (later.resolveFor purpose path) := by
  rw [resolveFor, resolveFor]
  split_ifs
  · exact .tooLong
  · rw [start, start, edits.here]
    exact followLinks_sameWay edits.root purpose maxLinks _ _

/-- No edit of files changes the place where a path leads. -/
theorem place?_eq
    (edits : disk.EditsFiles later)
    (path : Path) :
    later.place? path = disk.place? path := by
  have same := edits.resolveFor_sameWay .look path
  rw [place?, place?, resolve, resolve]
  generalize disk.resolveFor .look path = before, later.resolveFor .look path = after at same ⊢
  cases same <;> rfl

/-- No edit of files changes which paths are refused. -/
theorem refusesPath_iff
    (edits : disk.EditsFiles later)
    (path : Path) :
    later.RefusesPath path ↔ disk.RefusesPath path := by
  have same := edits.resolveFor_sameWay .look path
  rw [RefusesPath, RefusesPath, resolve, resolve]
  generalize disk.resolveFor .look path = before, later.resolveFor .look path = after at same ⊢
  cases same with
  | arrive =>
      simp
  | tooLong =>
      rfl
  | fail notLong laterNotLong =>
      simp [notLong, laterNotLong]

/-- A path leads to the same file as long as the file at its own place is not edited. -/
theorem body?_eq
    (edits : disk.EditsFiles later)
    {path : Path}
    (spared :
      ∀ names, disk.place? path = some names →
        later.root.bodyAt? names = disk.root.bodyAt? names) :
    later.body? path = disk.body? path := by
  rw [body?, body?, edits.place?_eq path]
  cases place : disk.place? path with
  | none =>
      rfl
  | some names =>
      exact spared names place

end EditsFiles

end Disk

end LineTally
