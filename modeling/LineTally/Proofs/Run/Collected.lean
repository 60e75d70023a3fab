import LineTally.Proofs.Run.Listing
import LineTally.Proofs.Run.Parts

namespace LineTally

/-!
# What is collected below a folder

The texts that are collected below a folder are those of the files which a walk lists
there, that have one of the extensions and are not ignored.  They are paths in their
normal form, so a file that is looked up by its text is looked up where it was found.
-/

namespace Disk

section Walked

variable
  {disk : Disk}
  {folder : Path}
  {place excluded names : List Text}

/-- The path of what a walk lists below a path in its normal form is in its normal form. -/
theorem IsWalked.isNormal_descend
    (walked : disk.IsWalked (.ofPath folder) place excluded names)
    (proper : disk.root.Proper)
    (normal : folder.IsNormal) :
    (folder.descend names).IsNormal := by
  obtain ⟨shape, found⟩ := walked.exists_shape
  intro name member
  rcases List.mem_append.mp member with inFolder | below
  · exact normal name inFolder
  · obtain ⟨⟨notEmpty, noSlash⟩, notDot, _⟩ :=
      proper.names found name (List.mem_append_right _ below)
    exact ⟨notEmpty, noSlash, notDot⟩

/-- What a walk lists is looked up by its text where it was found. -/
theorem IsWalked.pathOf_eq
    (walked : disk.IsWalked (.ofPath folder) place excluded names)
    (proper : disk.root.Proper)
    (normal : folder.IsNormal) :
    Counting.pathOf (.ofText (folder.descend names).toText) = folder.descend names :=
  Path.ofText_toText (walked.isNormal_descend proper normal)

end Walked

/-- A walk can start from every folder that is given by a path in its normal form. -/
theorem exists_isWalkRoot_of_isFolder
    {disk : Disk}
    {folder : Path}
    (normal : folder.IsNormal)
    (isFolder : disk.isFolder folder = .ok true) :
    ∃ place, disk.IsWalkRoot (.ofPath folder) place := by
  rw [← Path.ofText_toText normal] at isFolder ⊢
  exact exists_isWalkRoot_iff.mpr isFolder

end Disk

namespace Selection

/-- What is collected is what has been gathered and is not ignored. -/
theorem exists_gather_mem_iff
    {disk : Disk}
    {extensions ignored excluded files : List Text}
    {input : Input}
    (collected : (collect disk extensions ignored excluded input).result = .ok files) :
    ∃ found, gather disk extensions excluded input = .ok found ∧
      ∀ file, file ∈ files ↔ file ∈ found ∧ isIgnored ignored (.ofText file) = false := by
  obtain ⟨found, gathered⟩ := exists_gather_of_collect collected
  rw [collect_of_gather gathered] at collected
  refine ⟨found, gathered, ?_⟩
  intro file
  rw [← Except.ok.inj collected, List.mem_filter, Bool.not_eq_true']

/-- Which texts are collected below a folder. -/
theorem mem_collected_iff
    {disk : Disk}
    {reference : FileRef}
    {place extensions ignored excluded files : List Text}
    (wellNamed : disk.root.WellNamed)
    (isFolder : disk.isFolder reference.toPath = .ok true)
    (start : disk.IsWalkRoot (.ofPath reference.toPath) place)
    (collected :
      (collect disk extensions ignored excluded (.single reference)).result = .ok files)
    {file : Text} :
    file ∈ files ↔
      isIgnored ignored (.ofText file) = false ∧
        ∃ names, disk.IsWalked (.ofPath reference.toPath) place excluded names ∧
          (∃ extension ∈ extensions, HasExtension (reference.toPath.descend names) extension) ∧
          file = (reference.toPath.descend names).toText := by
  obtain ⟨found, gathered, mem_files⟩ := exists_gather_mem_iff collected
  rw [gather_of_isFolder isFolder] at gathered
  rw [mem_files, mem_found_iff wellNamed start gathered, and_comm]

end Selection

end LineTally
