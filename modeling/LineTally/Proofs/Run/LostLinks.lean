import LineTally.Proofs.Disk.LostLinks
import LineTally.Proofs.Run.Collected
import LineTally.Proofs.Run.Notes

namespace LineTally

/-!
# Runs over folders with lost links

A run over a folder counts every link there that is lost as a file without lines, and
notes that it was not found.  It does so for nothing else: all its other records are of
files, and none of these is noted.
-/

namespace Disk

/-- Of what a walk lists and the disk does not refuse, exactly the lost links have no content. -/
theorem IsWalked.isLostLink_iff
    {disk : Disk}
    {root : FileRef}
    {place excluded names : List Text}
    (proper : disk.root.Proper)
    (nulFree : disk.root.NulFree)
    (start : disk.IsWalkRoot root place)
    (walked : disk.IsWalked root place excluded names)
    (taken : ¬ disk.RefusesPath (root.toPath.descend names)) :
    disk.IsLostLink root place names ↔ disk.body? (root.toPath.descend names) = none := by
  have fits := size_le_of_not_refusesPath (walked.holdsNul_eq_false nulFree start) taken
  have isFile := walked.isFile_iff proper nulFree start
  rw [isFile_eq_true_iff, ← Option.isSome_iff_exists, and_iff_right fits] at isFile
  rw [← Option.not_isSome_iff_eq_none, isFile, not_not]

end Disk

namespace Request

/--
What a run over a folder makes of something in it: a record of a file, without a note that
the file was not found, or a record without lines and with this note for a lost link.
-/
inductive Accounts
    (disk : Disk)
    (notes : List Note)
    (folder : Path)
    (place excluded : List Text) :
    FileRecord → Prop where
  | file {names : List Text} {counts : Counts}
      (walked : disk.IsWalked (.ofPath folder) place excluded names)
      (isFile : disk.isFile (folder.descend names) = .ok true)
      (unnoted : Counting.notFound (folder.descend names).toText ∉ notes) :
      Accounts disk notes folder place excluded ⟨(folder.descend names).toText, counts⟩
  | lostLink {names : List Text}
      (walked : disk.IsWalked (.ofPath folder) place excluded names)
      (lost : disk.IsLostLink (.ofPath folder) place names)
      (noted : Counting.notFound (folder.descend names).toText ∈ notes) :
      Accounts disk notes folder place excluded (.empty (folder.descend names).toText)

section Folder

variable
  {request : Request}
  {disk : Disk}
  {reference : FileRef}
  {place : List Text}

/-- A request whose input refers to a file or folder is for this one. -/
theorem checkInput_of_fileRef?
    {value : Value}
    (refers : value.fileRef? = some reference) :
    checkInput value = .ok (.single reference) := by
  rw [checkInput, Input.ofValue?, refers]

variable
  (proper : disk.root.Proper)
  (nulFree : disk.root.NulFree)
  (normal : reference.toPath.IsNormal)
  (refers : request.input.fileRef? = some reference)
  (isFolder : disk.isFolder reference.toPath = .ok true)
  (start : disk.IsWalkRoot (.ofPath reference.toPath) place)

include proper nulFree normal refers isFolder start

/-- A run over a folder notes that something was not found only for a lost link. -/
theorem exists_isLostLink_of_notFound
    {name : Text}
    (noted : Counting.notFound name ∈ (request.run disk).journal.notes) :
    ∃ plan names,
      (request.effectiveSettings.check disk).result = .ok plan ∧
        disk.IsWalked (.ofPath reference.toPath) place plan.excluded names ∧
        disk.IsLostLink (.ofPath reference.toPath) place names ∧
        name = (reference.toPath.descend names).toText := by
  rw [mem_notes_run_iff rfl, mem_notes_survey_iff rfl] at noted
  obtain ⟨input, plan, files, isInput, checked, collected, ofBatch⟩ := noted
  cases (checkInput_of_fileRef? refers).symm.trans isInput
  obtain ⟨_, member, ofFile⟩ := Counting.exists_mem_of_mem_notes_countFiles ofBatch
  obtain ⟨file, isCollected, rfl⟩ := List.mem_map.mp member
  obtain ⟨named, noBody, taken⟩ := Counting.noBody_of_notFound ofFile
  rw [Selection.mem_collected_iff proper.wellNamed isFolder start collected] at isCollected
  obtain ⟨_, names, walked, _, rfl⟩ := isCollected
  rw [walked.pathOf_eq proper normal] at noBody taken
  exact
    ⟨plan, names, checked, walked,
      (walked.isLostLink_iff proper nulFree start taken).mpr noBody, named.symm⟩

/-- Every record of a run over a folder is accounted for. -/
theorem accounts_of_run
    {tally : Tally}
    (ended : (request.run disk).journal.result = .ok tally) :
    ∃ plan,
      (request.effectiveSettings.check disk).result = .ok plan ∧
        ∀ record ∈ tally,
          Accounts disk (request.run disk).journal.notes reference.toPath place plan.excluded
            record := by
  obtain ⟨survey, surveyed, ends⟩ := exists_survey_of_run ended
  obtain ⟨input, files, isInput, checked, collected, counted⟩ := survey_eq_ok_iff.mp surveyed
  cases (checkInput_of_fileRef? refers).symm.trans isInput
  refine ⟨survey.plan, checked, ?_⟩
  rintro ⟨path, counts⟩ member
  rw [ends.tally_eq] at counted
  obtain ⟨_, isReference, counted, notesInBatch⟩ :=
    Counting.exists_countFile_of_mem counted member
  obtain ⟨file, isCollected, rfl⟩ := List.mem_map.mp isReference
  have named := Counting.path_of_countFile counted
  have taken := (Counting.record_of_countFile counted).1
  rw [Selection.mem_collected_iff proper.wellNamed isFolder start collected] at isCollected
  obtain ⟨_, names, walked, _, rfl⟩ := isCollected
  obtain rfl : path = (reference.toPath.descend names).toText := named
  rw [walked.pathOf_eq proper normal] at taken
  by_cases lost : disk.IsLostLink (.ofPath reference.toPath) place names
  · have noBody : disk.body? (reference.toPath.descend names) = none :=
      (walked.isLostLink_iff proper nulFree start taken).mp lost
    rw [← walked.pathOf_eq proper normal] at noBody taken
    rw [Counting.countFile_of_noBody taken noBody] at counted notesInBatch
    cases counted
    refine .lostLink walked lost ?_
    rw [mem_notes_run_iff rfl, mem_notes_survey_iff rfl]
    exact
      ⟨_, _, _, isInput, checked, collected, notesInBatch (List.mem_singleton.mpr rfl)⟩
  · have fits :=
      Disk.size_le_of_not_refusesPath (walked.holdsNul_eq_false nulFree start) taken
    refine .file walked ((walked.isFile_iff proper nulFree start).mpr ⟨fits, lost⟩) ?_
    intro noted
    obtain ⟨_, others, _, otherWalked, otherLost, sameText⟩ :=
      exists_isLostLink_of_notFound proper nulFree normal refers isFolder start noted
    have samePath : reference.toPath.descend names = reference.toPath.descend others := by
      have looksUp := congrArg (fun text => Counting.pathOf (.ofText text)) sameText
      rwa [walked.pathOf_eq proper normal, otherWalked.pathOf_eq proper normal] at looksUp
    rw [Path.descend_injective _ samePath] at lost
    exact lost otherLost

end Folder

/--
Every path that a walk lists leads to a file unless it is too long or that of a lost link.
Hence a run over a folder notes that something was not found only for a lost link there,
and if it succeeds, each of its records is of a file that is not so noted, or is without
lines, of a lost link, and so noted.
-/
theorem walkFrom_lists_files_but_lostLinks
    {disk : Disk}
    (proper : disk.root.Proper)
    (nulFree : disk.root.NulFree) :
    (∀ (root : FileRef) (place excluded : List Text),
      disk.IsWalkRoot root place →
      ∃ walked : List (List Text),
        disk.walkFrom excluded root = .ok (walked.map root.toPath.descend) ∧
          (∀ names, names ∈ walked ↔ disk.IsWalked root place excluded names) ∧
          ∀ names ∈ walked,
            (disk.isFile (root.toPath.descend names) = .ok true ↔
              Utf8.size (root.toPath.descend names).toText ≤ Disk.maxPathSize ∧
                ¬ disk.IsLostLink root place names)) ∧
      ∀ (request : Request) (reference : FileRef),
        request.input.fileRef? = some reference →
        reference.toPath.IsNormal →
        disk.isFolder reference.toPath = .ok true →
        ∃ place,
          disk.IsWalkRoot (.ofPath reference.toPath) place ∧
            (∀ name, Counting.notFound name ∈ (request.run disk).journal.notes →
              ∃ plan names,
                (request.effectiveSettings.check disk).result = .ok plan ∧
                  disk.IsWalked (.ofPath reference.toPath) place plan.excluded names ∧
                  disk.IsLostLink (.ofPath reference.toPath) place names ∧
                  name = (reference.toPath.descend names).toText) ∧
            ∀ tally, (request.run disk).journal.result = .ok tally →
              ∃ plan,
                (request.effectiveSettings.check disk).result = .ok plan ∧
                  ∀ record ∈ tally,
                    Accounts disk (request.run disk).journal.notes reference.toPath place
                      plan.excluded record := by
  constructor
  · intro root place excluded start
    obtain ⟨walked, lists, members, _⟩ := start.walkFrom_eq proper.wellNamed excluded
    refine ⟨walked, lists, members, ?_⟩
    intro names member
    exact ((members names).mp member).isFile_iff proper nulFree start
  · intro request reference refers normal isFolder
    obtain ⟨place, start⟩ := Disk.exists_isWalkRoot_of_isFolder normal isFolder
    refine ⟨place, start, ?_, ?_⟩
    · intro name noted
      exact exists_isLostLink_of_notFound proper nulFree normal refers isFolder start noted
    · intro tally ended
      exact accounts_of_run proper nulFree normal refers isFolder start ended

/-- A disk with a folder of a link that leads nowhere and of a sub-folder with a file. -/
def lostLinkDisk : Disk :=
  ⟨.folder
    [ ("d".toList,
        .folder
          [ ("b.m".toList, .link "nowhere".toList),
            ("sub".toList,
              .folder [("a.m".toList, .file (.bytes [0x78, 0x3D, 0x31, 0x3B, 0x0A]))]) ]) ],
    []⟩

/-- This disk is proper. -/
theorem proper_lostLinkDisk :
    lostLinkDisk.root.Proper := by
  refine Node.proper_folder (by decide) (by decide) ?_
  rw [List.forall_mem_singleton]
  refine Node.proper_folder (by decide) (by decide) ?_
  simp only [List.forall_mem_cons]
  refine ⟨Node.proper_of_not_isFolder rfl, ?_, nofun⟩
  refine Node.proper_folder (by decide) (by decide) ?_
  rw [List.forall_mem_singleton]
  exact Node.proper_of_not_isFolder rfl

/-- It has no NUL in its names. -/
theorem nulFree_lostLinkDisk :
    lostLinkDisk.root.NulFree := by
  have wellNamed := proper_lostLinkDisk.wellNamed
  refine Node.nulFree_folder wellNamed (by decide) ?_
  rw [List.forall_mem_singleton]
  have topNamed := wellNamed.entry List.mem_cons_self
  refine Node.nulFree_folder topNamed (by decide) ?_
  simp only [List.forall_mem_cons]
  refine ⟨Node.nulFree_of_not_isFolder rfl, ?_, nofun⟩
  refine
    Node.nulFree_folder (topNamed.entry (List.mem_cons_of_mem _ List.mem_cons_self))
      (by decide) ?_
  rw [List.forall_mem_singleton]
  exact Node.nulFree_of_not_isFolder rfl

/-- A request to count that folder. -/
def forLostLink : Request where
  input := .string "d".toList

/-- In that folder the link is lost. -/
theorem isLostLink_lostLinkDisk :
    lostLinkDisk.IsLostLink (.ofText "d".toList) ["d".toList] ["b.m".toList] := by
  refine ⟨⟨"nowhere".toList, by decide +kernel⟩, ?_⟩
  intro found leads
  have leadsNowhere :
      lostLinkDisk.leads? ((Path.ofText "d".toList).descend ["b.m".toList]) =
        some ["d".toList, "nowhere".toList] := by
    decide +kernel
  cases leadsNowhere.symm.trans leads
  decide +kernel

/-- A walk can start from that folder. -/
theorem isWalkRoot_lostLinkDisk :
    lostLinkDisk.IsWalkRoot (.ofText "d".toList) ["d".toList] :=
  ⟨by decide, by decide, by decide +kernel, by decide +kernel⟩

/--
The run comes to an end with two records, and notes that the link was not found.  The run
takes long to compute, so all that is told of it is told together.
-/
theorem run_lostLinkDisk :
    lostLinkDisk.isFolder (Path.ofText "d".toList) = .ok true ∧
      (forLostLink.run lostLinkDisk).journal.result =
        .ok [.empty "d/b.m".toList, ⟨"d/sub/a.m".toList, ⟨1, 0, 0, 1⟩⟩] ∧
      Counting.notFound "d/b.m".toList ∈ (forLostLink.run lostLinkDisk).journal.notes := by
  decide +kernel

/-- The file and the link are both listed, but the link is no file, and both have records. -/
theorem walkFrom_lists_files_but_lostLinks_lostLinkDisk :
    (∃ walked : List (List Text),
      lostLinkDisk.walkFrom [] (.ofText "d".toList) =
          .ok (walked.map (Path.ofText "d".toList).descend) ∧
        ["sub".toList, "a.m".toList] ∈ walked ∧
        ["b.m".toList] ∈ walked ∧
        lostLinkDisk.isFile ((Path.ofText "d".toList).descend ["sub".toList, "a.m".toList]) =
          .ok true ∧
        lostLinkDisk.isFile ((Path.ofText "d".toList).descend ["b.m".toList]) ≠ .ok true) ∧
      ∃ place excluded,
        ∀ record ∈ [.empty "d/b.m".toList, ⟨"d/sub/a.m".toList, ⟨1, 0, 0, 1⟩⟩],
          Accounts lostLinkDisk (forLostLink.run lostLinkDisk).journal.notes
            (Path.ofText "d".toList) place excluded record := by
  obtain ⟨walks, runs⟩ :=
    walkFrom_lists_files_but_lostLinks proper_lostLinkDisk nulFree_lostLinkDisk
  constructor
  · obtain ⟨walked, lists, members, files⟩ := walks _ _ [] isWalkRoot_lostLinkDisk
    have file : ["sub".toList, "a.m".toList] ∈ walked :=
      (members _).mpr
        ⟨by decide, by decide +kernel, by decide, by simp,
          .inl ⟨.bytes [0x78, 0x3D, 0x31, 0x3B, 0x0A], by decide +kernel⟩⟩
    have link : ["b.m".toList] ∈ walked :=
      (members _).mpr
        ⟨by decide, by decide +kernel, by decide, by simp,
          .inr ⟨"nowhere".toList, by decide +kernel, fun _ => by decide +kernel⟩⟩
    refine ⟨walked, lists, file, link, (files _ file).mpr ⟨by decide, ?_⟩, ?_⟩
    · rintro ⟨⟨target, isLink⟩, _⟩
      have isFile :
          lostLinkDisk.root.shapeAt? (["d".toList] ++ ["sub".toList, "a.m".toList]) =
            some (.file (.bytes [0x78, 0x3D, 0x31, 0x3B, 0x0A])) := by
        decide +kernel
      cases isFile.symm.trans isLink
    · intro isFile
      exact ((files _ link).mp isFile).2 isLostLink_lostLinkDisk
  · obtain ⟨isFolder, ended, _⟩ := run_lostLinkDisk
    obtain ⟨place, _, _, accounts⟩ :=
      runs forLostLink (.ofText "d".toList) rfl (Path.isNormal_ofText _) isFolder
    obtain ⟨plan, _, each⟩ := accounts _ ended
    exact ⟨place, plan.excluded, each⟩

/-- A walk does not always list files only, and a run does not always find what it lists. -/
theorem walkFrom_not_always_lists_files :
    (¬ ∀ (disk : Disk) (root : FileRef) (place excluded : List Text) (paths : List Path),
        disk.root.Proper →
        disk.root.NulFree →
        disk.IsWalkRoot root place →
        disk.walkFrom excluded root = .ok paths →
        ∀ path ∈ paths, disk.isFile path = .ok true) ∧
      ¬ ∀ (disk : Disk) (request : Request) (reference : FileRef),
        disk.root.Proper →
        disk.root.NulFree →
        request.input.fileRef? = some reference →
        reference.toPath.IsNormal →
        disk.isFolder reference.toPath = .ok true →
        ∀ name, Counting.notFound name ∉ (request.run disk).journal.notes := by
  obtain ⟨lists, noFile⟩ :
      lostLinkDisk.walkFrom [] (.ofText "d".toList) =
          .ok [.ofText "d/b.m".toList, .ofText "d/sub/a.m".toList] ∧
        lostLinkDisk.isFile (.ofText "d/b.m".toList) = .ok false := by
    decide +kernel
  obtain ⟨isFolder, _, noted⟩ := run_lostLinkDisk
  constructor
  · intro always
    have isFile :=
      always lostLinkDisk _ _ [] _ proper_lostLinkDisk nulFree_lostLinkDisk
        isWalkRoot_lostLinkDisk lists (.ofText "d/b.m".toList) (by simp)
    cases noFile.symm.trans isFile
  · intro always
    exact
      always lostLinkDisk forLostLink (.ofText "d".toList) proper_lostLinkDisk
        nulFree_lostLinkDisk rfl (Path.isNormal_ofText _) isFolder "d/b.m".toList noted

end Request

end LineTally
