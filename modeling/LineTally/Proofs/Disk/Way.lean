import LineTally.Proofs.Disk.Proper
import LineTally.Proofs.Disk.WalkFrom

namespace LineTally

/-!
# Ways and how they go on

A path that is too long for the disk has names that lead somewhere all the same.  From a
folder that a way leads to, plain names go on to what is below it.
-/

/-- What is above a folder is a folder, however far above it is. -/
theorem Node.shapeAt?_of_append
    {tree : Node}
    {front back : List Text}
    (isFolder : tree.shapeAt? (front ++ back) = some .folder) :
    tree.shapeAt? front = some .folder := by
  induction back using List.reverseRecOn with
  | nil =>
      rwa [List.append_nil] at isFolder
  | append_singleton back last inductionHypothesis =>
      have above := shapeAt?_dropLast isFolder
      rw [← List.append_assoc, List.dropLast_concat] at above
      exact inductionHypothesis above

namespace Disk

/-- Where the names of a path lead, however long its text is as a whole. -/
def leads?
    (disk : Disk)
    (path : Path) :
    Option (List Text) :=
  match followLinks disk.root .look maxLinks (disk.start path) path.parts with
  | .ok place => some place.names
  | .error _ => none

/-- The names of a path lead to where a way over links arrives. -/
theorem leads?_eq_some_iff
    {disk : Disk}
    {path : Path}
    {place : List Text} :
    disk.leads? path = some place ↔
      ∃ found, followLinks disk.root .look maxLinks (disk.start path) path.parts = .ok found ∧
        found.names = place := by
  rw [leads?]
  cases followLinks disk.root .look maxLinks (disk.start path) path.parts with
  | error error =>
      simp
  | ok found =>
      simp

/-- The names of a path lead to where the path does, if it leads anywhere. -/
theorem leads?_of_place?
    {disk : Disk}
    {path : Path}
    {place : List Text}
    (leads : disk.place? path = some place) :
    disk.leads? path = some place := by
  have resolved := (resolve_of_place? leads).2
  rw [resolve, resolveFor] at resolved
  split_ifs at resolved
  exact leads?_eq_some_iff.mpr ⟨_, resolved, rfl⟩

/-- A path has a NUL in its text only if one of its names has. -/
theorem holdsNul_eq_false_iff
    {path : Path} :
    holdsNul path = false ↔ ∀ name ∈ path.parts, '\x00' ∉ name := by
  have inNames :
      '\x00' ∈ ['/'].intercalate path.parts ↔ ∃ name ∈ path.parts, '\x00' ∈ name :=
    Path.mem_intercalate_iff (by decide)
  have inText : '\x00' ∈ path.toText ↔ ∃ name ∈ path.parts, '\x00' ∈ name := by
    obtain ⟨anchor, parts⟩ := path
    cases parts with
    | nil =>
        cases anchor <;> simp [Path.toText, Path.anchorText]
    | cons first rest =>
        rw [← inNames]
        cases anchor <;> simp [Path.toText, Path.anchorText]
  rw [holdsNul, List.any_eq_false]
  simpa [List.forall_mem_ne'] using not_congr inText

/-- A path leads to where its names do if it has no NUL and is not too long. -/
theorem place?_eq_some_iff
    {disk : Disk}
    {path : Path}
    {place : List Text} :
    disk.place? path = some place ↔
      holdsNul path = false ∧ Utf8.size path.toText ≤ maxPathSize ∧
        disk.leads? path = some place := by
  constructor
  · intro leads
    exact ⟨(resolve_of_place? leads).1, size_le_of_place? leads, leads?_of_place? leads⟩
  · rintro ⟨noNul, fits, leads⟩
    obtain ⟨found, arrived, atPlace⟩ := leads?_eq_some_iff.mp leads
    rw [place?, noNul, resolve, resolveFor, if_neg fits.not_gt, arrived, ← atPlace]
    rfl

namespace EditsFiles

variable {disk later : Disk}

/-- No edit of files changes where the names of a path lead. -/
theorem leads?_eq
    (edits : disk.EditsFiles later)
    (path : Path) :
    later.leads? path = disk.leads? path := by
  have sameWay := followLinks_sameWay edits.root .look maxLinks (disk.start path) path.parts
  have sameStart : later.start path = disk.start path := by
    rw [start, start, edits.here]
  rw [leads?, leads?, sameStart]
  generalize
    followLinks disk.root .look maxLinks (disk.start path) path.parts = way,
    followLinks later.root .look maxLinks (disk.start path) path.parts = laterWay at sameWay ⊢
  cases sameWay <;> rfl

end EditsFiles

/-- A way that arrives at a folder goes on as the names that follow go on from there. -/
theorem follow_append
    {root : Node}
    {onLink : List Text → List Text → Except DiskError Place}
    {place below : List Text}
    {last : Place}
    (isFolder : root.shapeAt? place = some .folder)
    (ofLink :
      ∀ folder names found, onLink folder names = .ok found → found.names = place →
        onLink folder (names ++ below) = .ok last)
    (goesOn : follow root .look onLink place below = .ok last)
    {folder names : List Text}
    {found : Place}
    (arrived : follow root .look onLink folder names = .ok found)
    (atPlace : found.names = place) :
    follow root .look onLink folder (names ++ below) = .ok last := by
  induction names generalizing folder with
  | nil =>
      cases arrived
      simp only at atPlace
      rwa [List.nil_append, atPlace]
  | cons name rest inductionHypothesis =>
      rw [follow_cons] at arrived
      rw [List.cons_append, follow_cons]
      split at arrived
      next =>
        simp only [reduceCtorEq, decide_false, Bool.false_and, Bool.false_eq_true, if_false]
          at arrived ⊢
        split_ifs at arrived ⊢
        · exact inductionHypothesis arrived
        · exact inductionHypothesis arrived
        · split at arrived
          next nothing =>
            cases arrived
            simp only at atPlace
            rw [atPlace, isFolder] at nothing
            cases nothing
          next =>
            cases arrived
          next target isLink =>
            split_ifs at arrived with noTarget
            rw [isLink]
            simp only [noTarget, Bool.false_eq_true, if_false, ← List.append_assoc]
            exact ofLink _ _ _ arrived atPlace
          next shape notLink isShape =>
            rw [isShape]
            cases shape with
            | link target =>
                exact (notLink target rfl).elim
            | file body =>
                exact inductionHypothesis arrived
            | folder =>
                exact inductionHypothesis arrived
      next =>
        cases arrived
      next =>
        cases arrived

/-- A way over links that arrives at a folder goes on, too, where no more link comes. -/
theorem followLinks_append
    {root : Node}
    {place below : List Text}
    {last : Place}
    (isFolder : root.shapeAt? place = some .folder)
    (goesOn : ∀ onLink, follow root .look onLink place below = .ok last)
    {links : Nat}
    {folder names : List Text}
    {found : Place}
    (arrived : followLinks root .look links folder names = .ok found)
    (atPlace : found.names = place) :
    followLinks root .look links folder (names ++ below) = .ok last := by
  induction links generalizing folder names found with
  | zero =>
      apply follow_append isFolder _ (goesOn _) arrived atPlace
      intro _ _ _ linked
      cases linked
  | succ links inductionHypothesis =>
      exact follow_append isFolder
        (fun _ _ _ linked linkedAtPlace => inductionHypothesis linked linkedAtPlace)
        (goesOn _) arrived atPlace

/-- Plain names lead from a folder through folders to the file that they name. -/
theorem follow_below
    {root : Node}
    {place names : List Text}
    (throughFolders : root.shapeAt? (place ++ names.dropLast) = some .folder)
    (named : ∀ name ∈ names, Node.IsEntryName name ∧ Node.IsPlainName name)
    {body : FileBody}
    (isFile : root.shapeAt? (place ++ names) = some (.file body))
    (onLink : List Text → List Text → Except DiskError Place) :
    follow root .look onLink place names = .ok ⟨place ++ names, root.find? (place ++ names)⟩ := by
  induction names generalizing place with
  | nil =>
      rw [List.append_nil]
      rfl
  | cons name rest inductionHypothesis =>
      obtain ⟨⟨⟨notEmpty, _⟩, notDot, notUp, fits⟩, restNamed⟩ := List.forall_mem_cons.mp named
      rw [follow_cons, Node.shapeAt?_of_append throughFolders]
      simp only [reduceCtorEq, decide_false, Bool.false_and, Bool.false_eq_true, if_false,
        slashName, notEmpty, notDot, notUp, Bool.or_false, fits.not_gt]
      cases rest with
      | nil =>
          rw [isFile]
          rfl
      | cons next rest =>
          rw [List.dropLast_cons_cons, List.append_cons] at throughFolders
          rw [List.append_cons] at isFile
          rw [Node.shapeAt?_of_append throughFolders, List.append_cons place name (next :: rest)]
          exact inductionHypothesis throughFolders restNamed isFile

/-- Below a folder that a path leads to the path goes on to the files there. -/
theorem leads?_descend
    {disk : Disk}
    {path : Path}
    {place names : List Text}
    (leads : disk.place? path = some place)
    (throughFolders : disk.root.shapeAt? (place ++ names.dropLast) = some .folder)
    (named : ∀ name ∈ names, Node.IsEntryName name ∧ Node.IsPlainName name)
    {body : FileBody}
    (isFile : disk.root.shapeAt? (place ++ names) = some (.file body)) :
    disk.leads? (path.descend names) = some (place ++ names) := by
  obtain ⟨found, arrived, atPlace⟩ := leads?_eq_some_iff.mp (leads?_of_place? leads)
  exact leads?_eq_some_iff.mpr
    ⟨_, followLinks_append (Node.shapeAt?_of_append throughFolders)
      (follow_below throughFolders named isFile) arrived atPlace, rfl⟩

end Disk

end LineTally
