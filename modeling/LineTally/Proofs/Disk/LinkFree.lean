import LineTally.Proofs.Disk.Writing

namespace LineTally

/-!
# Trees without links

Where there are no links a path leads nowhere else than its names say: if it does not
lead to a folder, the last name of its place is its own last name.
-/

/-- A tree that has no link anywhere. -/
def Node.LinkFree
    (tree : Node) :
    Prop :=
  ∀ names target, tree.shapeAt? names ≠ some (.link target)

namespace Node

/-- A file has no link in it. -/
theorem linkFree_file
    (body : FileBody) :
    (file body).LinkFree := by
  rintro (_ | ⟨name, rest⟩) target isLink <;> cases isLink

/-- A folder has no link in it if none of its entries has one. -/
theorem linkFree_folder
    {entries : List (Text × Node)}
    (below : ∀ entry ∈ entries, entry.2.LinkFree) :
    (folder entries).LinkFree := by
  rintro (_ | ⟨name, rest⟩) target isLink
  · cases isLink
  · rw [shapeAt?_folder_cons] at isLink
    obtain ⟨child, listed, isLinkBelow⟩ := Option.bind_eq_some_iff.mp isLink
    obtain ⟨before, after, split, _⟩ := List.lookup_eq_some_iff.mp listed
    exact below (name, child) (by simp [split]) rest target isLinkBelow

end Node

namespace Disk

/-- Without links a way to what is no folder ends at its last name, where the others lead. -/
theorem exists_append_of_follow
    {root : Node}
    (linkFree : root.LinkFree)
    {purpose : Purpose}
    {onLink : List Text → List Text → Except DiskError Place}
    (onLook : List Text → List Text → Except DiskError Place)
    {folder names : List Text}
    {last : Text}
    {place : Place}
    (arrived : follow root purpose onLink folder (names ++ [last]) = .ok place)
    (notFolder : root.shapeAt? place.names ≠ some .folder) :
    ∃ front, follow root .look onLook folder names = .ok ⟨front, root.find? front⟩ ∧
      place.names = front ++ [last] := by
  induction names generalizing folder with
  | nil =>
      rw [List.nil_append, follow_cons] at arrived
      split at arrived
      next isFolder =>
        simp only [List.nil_eq, reduceCtorEq, decide_false, Bool.and_false, Bool.false_eq_true,
          if_false] at arrived
        split_ifs at arrived
        · cases arrived
          exact (notFolder isFolder).elim
        · cases arrived
          exact (notFolder (Node.shapeAt?_dropLast isFolder)).elim
        · split at arrived
          · cases arrived
            exact ⟨folder, rfl, rfl⟩
          · cases arrived
          next target isLink =>
            exact (linkFree _ target isLink).elim
          · cases arrived
            exact ⟨folder, rfl, rfl⟩
      next =>
        cases arrived
      next =>
        cases arrived
  | cons name rest inductionHypothesis =>
      rw [List.cons_append, follow_cons] at arrived
      rw [follow_cons]
      split at arrived
      next =>
        simp only [reduceCtorEq, decide_false, Bool.false_and, Bool.false_eq_true, if_false]
        split_ifs at arrived ⊢
        · exact inductionHypothesis arrived
        · exact inductionHypothesis arrived
        · split at arrived
          next nothingLeft =>
            simp at nothingLeft
          · cases arrived
          next target isLink =>
            exact (linkFree _ target isLink).elim
          next shape notLink isShape =>
            rw [isShape]
            cases shape with
            | link target =>
                exact (notLink target rfl).elim
            | file body =>
                exact inductionHypothesis arrived
            | folder =>
                exact inductionHypothesis arrived
      next =>
        cases arrived
      next =>
        cases arrived

/-- Without links the last name of a place that is no folder is that of its path. -/
theorem getLast?_place
    {disk : Disk}
    (linkFree : disk.root.LinkFree)
    {path : Path}
    {place : List Text}
    (leads : disk.place? path = some place)
    (notFolder : disk.root.shapeAt? place ≠ some .folder)
    (named : path.parts ≠ []) :
    place.getLast? = path.parts.getLast? := by
  have resolved := (resolve_of_place? leads).2
  rw [resolve, resolveFor] at resolved
  split_ifs at resolved
  rw [← List.dropLast_concat_getLast named, maxLinks, followLinks] at resolved
  obtain ⟨front, _, endsWith⟩ := exists_append_of_follow linkFree (fun _ _ => .error .missing)
    resolved notFolder
  simp only at endsWith
  rw [endsWith, List.getLast?_concat, List.getLast?_eq_some_getLast named]

/-- Without links what is no folder is right in the folder that the names before it lead to. -/
theorem place_descend
    {disk : Disk}
    (linkFree : disk.root.LinkFree)
    {folder : Path}
    {name : Text}
    {place folderPlace : List Text}
    (leads : disk.place? (folder.descend [name]) = some place)
    (notFolder : disk.root.shapeAt? place ≠ some .folder)
    (folderLeads : disk.place? folder = some folderPlace) :
    place = folderPlace ++ [name] := by
  have resolved := (resolve_of_place? leads).2
  have folderResolved := (resolve_of_place? folderLeads).2
  rw [resolve, resolveFor] at resolved folderResolved
  split_ifs at resolved folderResolved
  rw [maxLinks, followLinks] at resolved folderResolved
  obtain ⟨front, arrived, endsWith⟩ := exists_append_of_follow linkFree _ resolved notFolder
  have sameFront := arrived.symm.trans folderResolved
  rw [Except.ok.injEq, Place.mk.injEq] at sameFront
  rw [← sameFront.1]
  exact endsWith

end Disk

end LineTally
