import LineTally.Proofs.Disk.WalkAgain
import LineTally.Proofs.Run.Journal
import LineTally.Proofs.Run.Selection

namespace LineTally.Selection

/-!
# Collecting files again

What is collected below a folder is known from the walk there.  After files have been
written the walk may list more, but as long as none of these is collected, what is
collected is the same as before.
-/

/-- The references that are kept are those that are not ignored, also where there is no rule. -/
theorem dropIgnored_eq_filter
    (ignored : List Text)
    (references : List FileRef) :
    dropIgnored ignored references =
      references.filter fun reference => !isIgnored ignored reference := by
  rw [dropIgnored]
  split_ifs with noRules
  · rw [List.isEmpty_iff.mp noRules, eq_comm, List.filter_eq_self]
    intro reference _
    rfl
  · rfl

/-- The references that are not ignored, as their texts. -/
theorem map_toText_dropIgnored
    (ignored : List Text)
    (found : List Text) :
    (dropIgnored ignored (found.map .ofText)).map FileRef.toText =
      found.filter fun file => !isIgnored ignored (.ofText file) := by
  rw [dropIgnored_eq_filter, List.filter_map, List.map_map]
  simp [Function.comp_def, FileRef.toText]

/-- What is collected is what is gathered, without the files that are ignored. -/
theorem collect_result
    (disk : Disk)
    (extensions ignored excluded : List Text)
    (input : Input) :
    (collect disk extensions ignored excluded input).result =
      ((gather disk extensions excluded input).mapError .disk).map fun found =>
        found.filter fun file => !isIgnored ignored (.ofText file) := by
  rw [collect, Journal.result_bind]
  simp only [Journal.ofDisk, Journal.ofExcept]
  cases gather disk extensions excluded input with
  | error fault =>
      rfl
  | ok found =>
      simp only [Except.mapError, Except.bind, Except.map, Journal.result_bind, Journal.note,
        ← map_toText_dropIgnored]
      rfl

/-- To select from some of the paths is to select from all and to keep these. -/
theorem selected_filter
    (keep : Path → Bool)
    (extensions : List Text)
    (paths : List Path) :
    selected extensions (paths.filter keep) = (selected extensions paths).filter keep := by
  rw [selected, selected, List.filter_flatMap]
  apply List.flatMap_congr
  rintro ⟨extension, index⟩ _
  simp only [List.filter_filter, Bool.and_comm]

/-- Whether a path has one of the extensions and is not ignored. -/
def isCollected
    (extensions ignored : List Text)
    (path : Path) :
    Bool :=
  (extensions.any fun extension => extension.isSuffixOf path.name) &&
    !isIgnored ignored (.ofText path.toText)

/-- The files that are collected below a folder, given those that a walk lists there. -/
theorem collect_of_walkFrom
    {disk : Disk}
    {reference : FileRef}
    {excluded : List Text}
    {paths : List Path}
    (isFolder : disk.isFolder reference.toPath = .ok true)
    (lists : disk.walkFrom excluded (.ofPath reference.toPath) = .ok paths)
    (distinct : paths.Nodup)
    (extensions ignored : List Text) :
    (collect disk extensions ignored excluded (.single reference)).result =
      .ok
        ((selected extensions (paths.filter (isCollected extensions ignored))).map
          Path.toText) := by
  have found :
      gather disk extensions excluded (.single reference) =
        .ok ((selected extensions paths).map Path.toText) := by
    simp only [gather, isFolder, find, lists, ← withExtensions_eq_selected distinct]
    rfl
  rw [collect_result, found, selected_filter]
  simp only [Except.mapError, Except.map, Except.ok.injEq, List.filter_map]
  congr 1
  apply List.filter_congr
  intro path member
  obtain ⟨_, extension, isGiven, has⟩ := mem_selected_iff.mp member
  have hasOne : (extensions.any fun extension => extension.isSuffixOf path.name) = true :=
    List.any_eq_true.mpr ⟨extension, isGiven, List.isSuffixOf_iff_suffix.mpr has⟩
  rw [isCollected, hasOne, Bool.true_and, Function.comp_apply]

section Again

variable
  {written : List Text → Prop}
  {disk later : Disk}
  {extensions ignored excluded : List Text}

/-- The files that are collected below a folder, by the names that lead to them from there. -/
theorem exists_collect_eq
    (wellNamed : disk.root.WellNamed)
    {reference : FileRef}
    {place : List Text}
    (isFolder : disk.isFolder reference.toPath = .ok true)
    (start : disk.IsWalkRoot (.ofPath reference.toPath) place)
    (extensions ignored excluded : List Text) :
    ∃ kept : List (List Text),
      (collect disk extensions ignored excluded (.single reference)).result =
          .ok ((selected extensions (kept.map reference.toPath.descend)).map Path.toText) ∧
        kept.Pairwise WalksBefore ∧
        ∀ names, names ∈ kept ↔
          disk.IsWalked (.ofPath reference.toPath) place excluded names ∧
            isCollected extensions ignored (reference.toPath.descend names) = true := by
  obtain ⟨walked, lists, members, ordered⟩ := start.walkFrom_eq wellNamed excluded
  have distinct := (WalksBefore.nodup ordered).map (Path.descend_injective reference.toPath)
  refine ⟨walked.filter (isCollected extensions ignored ∘ reference.toPath.descend), ?_, ?_, ?_⟩
  · rw [collect_of_walkFrom isFolder lists distinct, List.filter_map]
    rfl
  · exact ordered.filter _
  · intro names
    rw [List.mem_filter, members, Function.comp_apply]

/-- A file that is collected below a folder is among the texts of what is collected. -/
theorem mem_map_toText_selected
    {path : Path}
    {paths : List Path}
    (member : path ∈ paths)
    (collected : isCollected extensions ignored path = true) :
    path.toText ∈ (selected extensions paths).map Path.toText := by
  rw [isCollected, Bool.and_eq_true, List.any_eq_true] at collected
  obtain ⟨⟨extension, isGiven, has⟩, _⟩ := collected
  exact List.mem_map_of_mem
    (mem_selected_iff.mpr
      ⟨member, extension, isGiven, List.isSuffixOf_iff_suffix.mp has⟩)

/--
After files have been written the same files are collected as before, unless one of those
that have been written is.
-/
theorem collect_again
    (wellNamed : disk.root.WellNamed)
    (proper : later.root.Proper)
    (writes : Disk.WritesAt written disk later)
    {input : Input}
    (normal : ∀ reference, input = .single reference → reference.toPath.IsNormal)
    (apart :
      ∀ files, (collect later extensions ignored excluded input).result = .ok files →
        ∀ file ∈ files, ∀ names, later.leads? (.ofText file) = some names → ¬ written names) :
    (collect later extensions ignored excluded input).result =
      (collect disk extensions ignored excluded input).result := by
  cases input with
  | listed references =>
      rw [collect_result, collect_result, gather, gather]
  | single reference =>
      have edits := writes.editsFiles
      have sameFolder := edits.isFolder_eq reference.toPath
      by_cases isFolder : disk.isFolder reference.toPath = .ok true
      case neg =>
        have sameGathered :
            gather later extensions excluded (.single reference) =
              gather disk extensions excluded (.single reference) := by
          cases answer : disk.isFolder reference.toPath with
          | error fault =>
              simp only [gather, sameFolder, answer, bind, Except.bind]
          | ok leadsToFolder =>
              cases leadsToFolder with
              | false =>
                  simp only [gather, sameFolder, answer, bind, Except.bind, Bool.false_eq_true,
                    if_false]
              | true =>
                  exact (isFolder answer).elim
        rw [collect_result, collect_result, sameGathered]
      have referenceNormal := normal reference rfl
      obtain ⟨place, start⟩ :
          ∃ place, disk.IsWalkRoot (.ofPath reference.toPath) place := by
        rw [← Path.ofText_toText referenceNormal] at isFolder ⊢
        exact Disk.exists_isWalkRoot_iff.mpr isFolder
      have laterStart := edits.isWalkRoot start
      obtain ⟨kept, collected, ordered, members⟩ :=
        exists_collect_eq wellNamed isFolder start extensions ignored excluded
      obtain ⟨laterKept, laterCollected, laterOrdered, laterMembers⟩ :=
        exists_collect_eq proper.wellNamed (sameFolder.trans isFolder) laterStart extensions
          ignored excluded
      have sameKept : laterKept = kept := by
        apply laterOrdered.eq_of_mem_iff ordered
        intro names
        rw [members, laterMembers]
        by_cases isWritten : written (place ++ names)
        · -- A written file that is collected again is among those that `apart` rules out.
          have notKept :
              ¬ (later.IsWalked (.ofPath reference.toPath) place excluded names ∧
                isCollected extensions ignored (reference.toPath.descend names) = true) := by
            rintro ⟨walked, isCollected⟩
            have member :
                reference.toPath.descend names ∈ laterKept.map reference.toPath.descend :=
              List.mem_map_of_mem ((laterMembers names).mpr ⟨walked, isCollected⟩)
            have rootNormal : (FileRef.ofPath reference.toPath).toPath.IsNormal :=
              referenceNormal
            have leads :=
              writes.leads?_of_isWalked proper rootNormal laterStart walked isWritten
            exact apart _ laterCollected _ (mem_map_toText_selected member isCollected) _ leads
              isWritten
          apply iff_of_false notKept
          rintro ⟨walked, isCollected⟩
          exact notKept ⟨writes.isWalked walked, isCollected⟩
        · rw [writes.isWalked_iff isWritten]
      rw [collected, laterCollected, sameKept]

end Again

end LineTally.Selection
