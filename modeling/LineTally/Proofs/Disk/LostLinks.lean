import LineTally.Proofs.Disk.Way

namespace LineTally

/-!
# Lost links

What a walk lists as a file is a file or a link, and a link that leads nowhere or in a
circle is listed like one that leads to a file.  Apart from these, every path that a walk
lists leads to a file, unless it is too long for the disk.
-/

namespace Node

/-- A tree without a NUL in the name of any entry. -/
def NulFree
    (tree : Node) :
    Prop :=
  ∀ names shape, tree.shapeAt? names = some shape → ∀ name ∈ names, '\x00' ∉ name

/-- What is no folder has no entry with a NUL in its name. -/
theorem nulFree_of_not_isFolder
    {node : Node}
    (notFolder : node.isFolder = false) :
    node.NulFree := by
  rintro (_ | ⟨name, rest⟩) shape found
  · simp
  · cases node with
    | folder entries =>
        cases notFolder
    | file body =>
        cases found
    | link target =>
        cases found

/-- A folder has no NUL in its names if none is in those of its entries and below them. -/
theorem nulFree_folder
    {entries : List (Text × Node)}
    (wellNamed : (folder entries).WellNamed)
    (named : ∀ entry ∈ entries, '\x00' ∉ entry.1)
    (below : ∀ entry ∈ entries, entry.2.NulFree) :
    (folder entries).NulFree := by
  rintro (_ | ⟨first, rest⟩) shape found
  · simp
  · obtain ⟨child, member, foundBelow⟩ := wellNamed.shapeAt?_cons_iff.mp found
    exact List.forall_mem_cons.mpr ⟨named _ member, below _ member rest shape foundBelow⟩

end Node

namespace Disk

/-- A path leads to a file if its names do, it has no NUL and is not too long. -/
theorem isFile_iff_leads?
    {disk : Disk}
    {path : Path} :
    disk.isFile path = .ok true ↔
      holdsNul path = false ∧ Utf8.size path.toText ≤ maxPathSize ∧
        ∃ place body, disk.leads? path = some place ∧
          disk.root.bodyAt? place = some body := by
  simp only [isFile_eq_true_iff, body?, Option.bind_eq_some_iff, place?_eq_some_iff]
  constructor
  · rintro ⟨body, place, ⟨noNul, fits, leads⟩, isFile⟩
    exact ⟨noNul, fits, place, body, leads, isFile⟩
  · rintro ⟨noNul, fits, place, body, leads, isFile⟩
    exact ⟨body, place, ⟨noNul, fits, leads⟩, isFile⟩

/-- A link below a folder whose path leads to no file, by its names from that folder on. -/
structure IsLostLink
    (disk : Disk)
    (root : FileRef)
    (place names : List Text) :
    Prop where
  isLink : ∃ target, disk.root.shapeAt? (place ++ names) = some (.link target)
  lost :
    ∀ found, disk.leads? (root.toPath.descend names) = some found →
      disk.root.bodyAt? found = none

section Listed

variable
  {disk : Disk}
  {root : FileRef}
  {place excluded names : List Text}

/-- There is no NUL in the path of what a walk lists. -/
theorem IsWalked.holdsNul_eq_false
    (nulFree : disk.root.NulFree)
    (start : disk.IsWalkRoot root place)
    (walked : disk.IsWalked root place excluded names) :
    holdsNul (root.toPath.descend names) = false := by
  obtain ⟨shape, found⟩ := walked.exists_shape
  have rootNoNul := holdsNul_eq_false_iff.mp (resolve_of_place? start.leads).1
  rw [holdsNul_eq_false_iff]
  intro name member
  rcases List.mem_append.mp member with inRoot | below
  · exact rootNoNul name inRoot
  · exact nulFree _ _ found name (List.mem_append_right _ below)

/-- What a walk lists is a file exactly if its path is not too long and it is no lost link. -/
theorem IsWalked.isFile_iff
    (proper : disk.root.Proper)
    (nulFree : disk.root.NulFree)
    (start : disk.IsWalkRoot root place)
    (walked : disk.IsWalked root place excluded names) :
    disk.isFile (root.toPath.descend names) = .ok true ↔
      Utf8.size (root.toPath.descend names).toText ≤ maxPathSize ∧
        ¬ disk.IsLostLink root place names := by
  rw [isFile_iff_leads?, walked.holdsNul_eq_false nulFree start]
  simp only [true_and]
  apply and_congr_right
  intro _
  rcases walked.ends with ⟨body, isFile⟩ | ⟨target, isLink, _⟩
  · have named : ∀ name ∈ names, Node.IsEntryName name ∧ Node.IsPlainName name :=
      fun name member => proper.names isFile name (List.mem_append_right _ member)
    have leads := leads?_descend start.leads walked.throughFolders named isFile
    have isBody : disk.root.bodyAt? (place ++ names) = some body := by
      rw [Node.bodyAt?, isFile]
      rfl
    constructor
    · rintro _ ⟨⟨target, isLink⟩, _⟩
      cases isFile.symm.trans isLink
    · intro _
      exact ⟨_, _, leads, isBody⟩
  · constructor
    · rintro ⟨found, body, leads, isFile⟩ lost
      cases isFile.symm.trans (lost.lost found leads)
    · intro notLost
      by_contra noFile
      refine notLost ⟨⟨target, isLink⟩, ?_⟩
      intro found leads
      rw [Option.eq_none_iff_forall_ne_some]
      intro body isFile
      exact noFile ⟨found, body, leads, isFile⟩

end Listed

end Disk

end LineTally
