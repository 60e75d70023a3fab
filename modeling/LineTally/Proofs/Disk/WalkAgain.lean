import LineTally.Proofs.Disk.Way

namespace LineTally.Disk

/-!
# Walking again

After files have been written, a walk lists all that it listed before, and of what it did
not list it lists at most the files that have been written.
-/

variable
  {written : List Text → Prop}
  {disk later : Disk}
  {root : FileRef}
  {place excluded names : List Text}

namespace WritesAt

/-- Away from the files that have been written, a walk lists the same before and after. -/
theorem isWalked_iff
    (writes : WritesAt written disk later)
    (apart : ¬ written (place ++ names)) :
    later.IsWalked root place excluded names ↔ disk.IsWalked root place excluded names :=
  writes.editsFiles.isWalked_iff (writes.elsewhere _ apart)

/-- A file that a walk lists before it is written anew is listed afterwards, too. -/
theorem isWalked
    (writes : WritesAt written disk later)
    (walked : disk.IsWalked root place excluded names) :
    later.IsWalked root place excluded names := by
  by_cases isWritten : written (place ++ names)
  · obtain ⟨content, isFile⟩ := writes.after _ isWritten
    exact
      ⟨walked.below, writes.editsFiles.root.isFolder_iff.mpr walked.throughFolders,
        walked.inReach, walked.noneExcluded, .inl ⟨_, isFile⟩⟩
  · exact (writes.isWalked_iff isWritten).mpr walked

/-- A file that has been written and that a walk lists is where the names of its path lead. -/
theorem leads?_of_isWalked
    (writes : WritesAt written disk later)
    (proper : later.root.Proper)
    (normal : root.toPath.IsNormal)
    (start : later.IsWalkRoot root place)
    (walked : later.IsWalked root place excluded names)
    (isWritten : written (place ++ names)) :
    later.leads? (.ofText (root.toPath.descend names).toText) = some (place ++ names) := by
  obtain ⟨content, isFile⟩ := writes.after _ isWritten
  have named : ∀ name ∈ names, Node.IsEntryName name ∧ Node.IsPlainName name := by
    intro name member
    exact proper.names isFile name (List.mem_append_right _ member)
  have pathNormal : (root.toPath.descend names).IsNormal := by
    intro name member
    rcases List.mem_append.mp member with inRoot | isBelow
    · exact normal name inRoot
    · obtain ⟨isEntryName, isPlainName⟩ := named name isBelow
      exact ⟨isEntryName.1, isEntryName.2, isPlainName.1⟩
  rw [Path.ofText_toText pathNormal]
  exact leads?_descend start.leads walked.throughFolders named isFile

end WritesAt

end LineTally.Disk
