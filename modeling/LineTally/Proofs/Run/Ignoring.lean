import LineTally.Proofs.Path.BaseName
import LineTally.Proofs.Run.Collected
import LineTally.Proofs.Run.Notes

namespace LineTally

/-!
# Ignored names

Whether a file is ignored is told from the base name of its text, but it is looked up by
the path that the text stands for.  Both have the same last name unless the text ends like
that of a folder.  A file that is given by such a text is never ignored, whatever its name;
below a folder there are no such texts, nor among those of paths with names.
-/

namespace Selection

/-- A text is ignored if its base name is. -/
theorem isIgnored_ofText_iff
    {ignored : List Text}
    {file : Text} :
    isIgnored ignored (.ofText file) = true ↔ Text.afterLast '/' file ∈ ignored := by
  rw [isIgnored, List.contains_iff_mem]
  rfl

/--
What is left of some files by ignoring names: where a text does not end like that of a
folder, those whose path has no ignored name, and all the others.
-/
structure DropsIgnored
    (ignored found kept : List Text) :
    Prop where
  subset : kept ⊆ found
  plain :
    ∀ file ∈ found, ¬ Path.EndsLikeFolder file →
      (file ∈ kept ↔ (Path.ofText file).name ∉ ignored)
  likeFolder :
    ∀ file ∈ found, Path.EndsLikeFolder file →
      [] ∉ ignored → ['.'] ∉ ignored → file ∈ kept

section Collected

variable
  {disk : Disk}
  {extensions ignored excluded kept : List Text}
  {input : Input}
  (collected : (collect disk extensions ignored excluded input).result = .ok kept)

include collected

/-- What is collected is what ignoring names leaves of what is gathered. -/
theorem exists_dropsIgnored :
    ∃ found, gather disk extensions excluded input = .ok found ∧
      DropsIgnored ignored found kept := by
  obtain ⟨found, gathered, memGathered⟩ := exists_gather_mem_iff collected
  have mem_kept (file : Text) :
      file ∈ kept ↔ file ∈ found ∧ Text.afterLast '/' file ∉ ignored := by
    rw [memGathered, ← isIgnored_ofText_iff, Bool.not_eq_true]
  refine ⟨found, gathered, fun file member => ((mem_kept file).mp member).1, ?_, ?_⟩
  · intro file isFound plain
    rw [mem_kept, Path.name_ofText plain, and_iff_right isFound]
  · intro file isFound likeFolder emptyKept dotKept
    rw [mem_kept, and_iff_right isFound]
    rcases likeFolder with isEmpty | isDot
    · rwa [isEmpty]
    · rwa [isDot]

/-- If what is collected has an ignored name, it is spelled like a folder. -/
theorem endsLikeFolder_of_name_mem
    {file : Text}
    (isKept : file ∈ kept)
    (isIgnored : (Path.ofText file).name ∈ ignored) :
    Path.EndsLikeFolder file := by
  obtain ⟨found, _, drops⟩ := exists_dropsIgnored collected
  by_contra plain
  exact (drops.plain file (drops.subset isKept) plain).mp isKept isIgnored

/-- No path in its normal form that is collected has an ignored name. -/
theorem name_notMem_of_toText_mem
    {path : Path}
    (normal : path.IsNormal)
    (someParts : path.parts ≠ [])
    (isKept : path.toText ∈ kept) :
    path.name ∉ ignored := by
  intro isIgnored
  rw [← Path.ofText_toText normal] at isIgnored
  exact
    (Path.afterLast_toText normal someParts).2
      (endsLikeFolder_of_name_mem collected isKept isIgnored)

end Collected

/-- Below a folder nothing is collected that has an ignored name. -/
theorem name_notMem_of_isFolder
    {disk : Disk}
    {extensions ignored excluded kept : List Text}
    {reference : FileRef}
    (proper : disk.root.Proper)
    (normal : reference.toPath.IsNormal)
    (isFolder : disk.isFolder reference.toPath = .ok true)
    (collected :
      (collect disk extensions ignored excluded (.single reference)).result = .ok kept)
    {file : Text}
    (isKept : file ∈ kept) :
    (Path.ofText file).name ∉ ignored := by
  obtain ⟨place, start⟩ := Disk.exists_isWalkRoot_of_isFolder normal isFolder
  obtain ⟨_, names, walked, _, rfl⟩ :=
    (mem_collected_iff proper.wellNamed isFolder start collected).mp isKept
  have normalBelow := walked.isNormal_descend proper normal
  rw [Path.ofText_toText normalBelow]
  have someParts : (reference.toPath.descend names).parts ≠ [] :=
    List.append_ne_nil_of_right_ne_nil _ walked.below
  exact name_notMem_of_toText_mem collected normalBelow someParts isKept

end Selection

namespace Request

/-- If a record of a run has an ignored name, its file is spelled like a folder. -/
theorem endsLikeFolder_of_run
    {request : Request}
    {disk : Disk}
    {tally : Tally}
    (ended : (request.run disk).journal.result = .ok tally) :
    ∃ plan,
      (request.effectiveSettings.check disk).result = .ok plan ∧
        ∀ record ∈ tally, (Path.ofText record.path).name ∈ plan.ignored →
          Path.EndsLikeFolder record.path := by
  obtain ⟨survey, surveyed, ends⟩ := exists_survey_of_run ended
  obtain ⟨input, files, _, checked, collected, counted⟩ := survey_eq_ok_iff.mp surveyed
  refine ⟨survey.plan, checked, ?_⟩
  intro record member
  rw [ends.tally_eq] at counted
  obtain ⟨_, isReference, fileCounted, _⟩ := Counting.exists_countFile_of_mem counted member
  obtain ⟨file, isKept, rfl⟩ := List.mem_map.mp isReference
  rw [Counting.path_of_countFile fileCounted]
  exact Selection.endsLikeFolder_of_name_mem collected isKept

end Request

namespace Selection

/--
Of the files that are gathered the ignored names are dropped from those whose texts do not
end like those of folders, and from no others.  So nothing with an ignored name is kept
below a folder, nor among paths in their normal form, and a run counts nothing with an
ignored name unless it is spelled like a folder.
-/
theorem collect_dropsIgnored
    (disk : Disk) :
    (∀ (extensions ignored excluded : List Text) (input : Input) (kept : List Text),
      (collect disk extensions ignored excluded input).result = .ok kept →
      (∃ found, gather disk extensions excluded input = .ok found ∧
        DropsIgnored ignored found kept) ∧
        (∀ path : Path, path.IsNormal → path.parts ≠ [] → path.toText ∈ kept →
          path.name ∉ ignored) ∧
        ∀ reference, input = .single reference →
          disk.root.Proper →
          reference.toPath.IsNormal →
          disk.isFolder reference.toPath = .ok true →
          ∀ file ∈ kept, (Path.ofText file).name ∉ ignored) ∧
      ∀ (request : Request) (tally : Tally),
        (request.run disk).journal.result = .ok tally →
        ∃ plan,
          (request.effectiveSettings.check disk).result = .ok plan ∧
            ∀ record ∈ tally, (Path.ofText record.path).name ∈ plan.ignored →
              Path.EndsLikeFolder record.path := by
  refine ⟨?_, fun _ _ => Request.endsLikeFolder_of_run⟩
  intro extensions ignored excluded input kept collected
  refine ⟨exists_dropsIgnored collected, ?_, ?_⟩
  · intro path normal someParts isKept
    exact name_notMem_of_toText_mem collected normal someParts isKept
  · rintro reference rfl proper normal isFolder file isKept
    exact name_notMem_of_isFolder proper normal isFolder collected isKept

/-- A disk with one file in a sub-folder. -/
def ignoredDisk : Disk :=
  ⟨.folder
    [ ("x".toList,
        .folder [("a.m".toList, .file (.bytes [0x78, 0x3D, 0x31, 0x3B, 0x0A]))]) ],
    []⟩

/-- The file under two spellings, the first of which ends like that of a folder. -/
def twoSpellings : Input :=
  .listed [.ofText "x/a.m/".toList, .ofText "x//a.m".toList]

/-- With the name of the file ignored, it is kept under the first of these spellings. -/
theorem collect_twoSpellings :
    (collect ignoredDisk [] ["a.m".toList] [] twoSpellings).result = .ok ["x/a.m/".toList] := by
  decide +kernel

/-- One spelling is kept although the name is ignored, and the other one is dropped for it. -/
theorem collect_dropsIgnored_twoSpellings :
    ∃ found kept,
      gather ignoredDisk [] [] twoSpellings = .ok found ∧
        (collect ignoredDisk [] ["a.m".toList] [] twoSpellings).result = .ok kept ∧
        "x/a.m/".toList ∈ kept ∧
        "x//a.m".toList ∉ kept := by
  obtain ⟨⟨found, gathered, drops⟩, _⟩ :=
    (collect_dropsIgnored ignoredDisk).1 [] ["a.m".toList] [] twoSpellings _
      collect_twoSpellings
  have isFound : "x/a.m/".toList ∈ found ∧ "x//a.m".toList ∈ found := by
    rw [← Except.ok.inj gathered]
    decide
  refine ⟨found, _, gathered, collect_twoSpellings, ?_, ?_⟩
  · exact drops.likeFolder _ isFound.1 (by decide) (by decide) (by decide)
  · rw [drops.plain _ isFound.2 (by decide)]
    decide

/-- What is kept can be a file with an ignored name. -/
theorem collect_not_always_dropsIgnored :
    ¬ ∀ (disk : Disk) (extensions ignored excluded : List Text) (input : Input)
        (kept : List Text),
      (collect disk extensions ignored excluded input).result = .ok kept →
      ∀ file ∈ kept, disk.isFile (Path.ofText file) = .ok true →
        (Path.ofText file).name ∉ ignored := by
  intro always
  exact
    always ignoredDisk [] ["a.m".toList] [] twoSpellings _ collect_twoSpellings
      "x/a.m/".toList (by simp) (by decide +kernel) (by decide)

end Selection

end LineTally
