import LineTally.Proofs.Charset.Known
import LineTally.Proofs.Disk.LinkFree
import LineTally.Proofs.Path.BaseName
import LineTally.Proofs.Run.Reporting

namespace LineTally

/-!
# The folder of the reports

The name of a report is checked for being a text that is not empty, and is then read as a
path from within the folder of the reports.  So a report is in this folder under this name
exactly if the name has no slash; with one it can be in any folder of the disk.  The document
is always beside the text report.
-/

namespace Path

/-- The path without its last name. -/
def parent
    (path : Path) :
    Path :=
  ⟨path.anchor, path.parts.dropLast⟩

/-- A path one name further down is below the folder. -/
theorem parent_descend
    (folder : Path)
    (name : Text) :
    (folder.descend [name]).parent = folder := by
  rw [parent, descend, List.dropLast_concat]

/-- The name of a path one name further down is that name. -/
theorem name_descend
    (folder : Path)
    (last : Text) :
    (folder.descend [last]).name = last := by
  rw [name, descend, List.getLast?_concat, Option.getD_some]

/-- Below a folder another suffix makes another name there. -/
theorem withSuffix?_descend
    (folder : Path)
    (suffix last : Text) :
    (folder.descend [last]).withSuffix? suffix =
      some (folder.descend [replaceSuffix suffix last]) := by
  rw [withSuffix?, descend, List.getLast?_concat, List.dropLast_concat]
  rfl

/-- A path with another suffix is beside the path. -/
theorem parent_of_withSuffix?
    {suffix : Text}
    {path other : Path}
    (made : path.withSuffix? suffix = some other) :
    other.parent = path.parent := by
  obtain ⟨front, last, isPath, isOther⟩ := exists_of_withSuffix? made
  rw [isOther, isPath, parent, parent, List.dropLast_concat, List.dropLast_concat]

/-- No name of a path that is made from a text has a slash. -/
theorem slash_notMem_name_ofText
    (text : Text) :
    '/' ∉ (ofText text).name := by
  rw [name]
  cases isLast : (ofText text).parts.getLast? with
  | none =>
      simp
  | some last =>
      exact (isNormal_ofText text last (List.mem_of_getLast? isLast)).2.1

end Path

namespace Report

variable
  {folder : Path}
  {name : Text}

/-- A report that is not the folder itself is in it under its name if this has no slash. -/
theorem textPath_of_ne_folder
    (named : name ≠ [])
    (notFolder : textPath folder name ≠ folder)
    (noSlash : '/' ∉ name) :
    textPath folder name = folder.descend [name] := by
  have anchor : Path.anchorOf name = .here := by
    obtain ⟨first, rest, rfl⟩ := List.exists_cons_of_ne_nil named
    have notSlash : first ≠ '/' := (List.ne_of_not_mem_cons noSlash).symm
    simp [Path.anchorOf, notSlash]
  have notDot : name ≠ ['.'] := by
    -- A single dot is a name for the folder itself.
    rintro rfl
    apply notFolder
    have dot : Path.ofText ['.'] = ⟨.here, []⟩ := by
      decide
    rw [textPath, dot, Path.join, if_pos rfl, List.append_nil]
  rw [textPath, Path.ofText, Path.names_of_notMem noSlash named notDot, anchor]
  rfl

/-- A report that is not the folder itself is anchored by its name, or has names in it. -/
theorem anchored_or_named
    (notFolder : textPath folder name ≠ folder) :
    (Path.ofText name).anchor ≠ .here ∨ (Path.ofText name).parts ≠ [] := by
  by_contra neither
  rw [not_or, not_not, not_not] at neither
  apply notFolder
  rw [textPath, Path.join, if_pos neither.1, neither.2, List.append_nil]

/-- A report that is not the folder itself has the last name of the path that its name is. -/
theorem name_textPath
    (notFolder : textPath folder name ≠ folder) :
    (textPath folder name).name = (Path.ofText name).name := by
  have anchoredOrNamed := anchored_or_named notFolder
  rw [textPath, Path.join]
  split_ifs with isHere
  · have someNames := anchoredOrNamed.resolve_left (not_not.mpr isHere)
    rw [Path.name, Path.name, List.getLast?_append_of_ne_nil _ someNames]
  · rfl

/-- A report is in the folder itself if its name is one name there, or a full path to there. -/
theorem parent_textPath_iff
    (notFolder : textPath folder name ≠ folder) :
    (textPath folder name).parent = folder ↔
      if (Path.ofText name).anchor = .here then
        (Path.ofText name).parts.length = 1
      else
        (Path.ofText name).parent = folder := by
  have anchoredOrNamed := anchored_or_named notFolder
  rw [textPath, Path.join]
  split_ifs with isHere
  · have someNames := anchoredOrNamed.resolve_left (not_not.mpr isHere)
    obtain ⟨anchor, parts⟩ := folder
    have positive := List.length_pos_of_ne_nil someNames
    simp only [Path.parent, Path.mk.injEq, true_and, List.dropLast_append_of_ne_nil someNames,
      List.append_right_eq_self, ← List.length_eq_zero_iff, List.length_dropLast]
    omega
  · rfl

/-- A report that is not the folder itself is in it as named exactly if there is no slash. -/
theorem textPath_kept_iff
    (named : name ≠ [])
    (notFolder : textPath folder name ≠ folder) :
    (textPath folder name).parent = folder ∧ (textPath folder name).name = name ↔
      '/' ∉ name := by
  constructor
  · rintro ⟨_, sameName⟩
    rw [name_textPath notFolder] at sameName
    rw [← sameName]
    exact Path.slash_notMem_name_ofText name
  · intro noSlash
    rw [textPath_of_ne_folder named notFolder noSlash]
    exact ⟨Path.parent_descend folder name, Path.name_descend folder name⟩

end Report

namespace Disk

/-- No file is written over a folder. -/
theorem ne_of_write
    {disk later : Disk}
    {path folder : Path}
    {content : List UInt8}
    (isFolder : disk.isFolder folder = .ok true)
    (written : disk.write path content = .ok later) :
    path ≠ folder := by
  rintro rfl
  obtain ⟨place, leads, shape⟩ := isFolder_eq_true_iff.mp isFolder
  have startIsFolder := shapeAt?_start_of_isFolder isFolder
  obtain ⟨ownPlace, wrote⟩ := exists_wrote_of_write startIsFolder written
  rw [Option.some.inj (leads.symm.trans wrote.leads)] at shape
  exact wrote.edits.before.notFolder shape

/-- No link comes from writing a file. -/
theorem Wrote.linkFree
    {disk later : Disk}
    {path : Path}
    {content : List UInt8}
    {place : List Text}
    (wrote : disk.Wrote later path content place)
    (linkFree : disk.root.LinkFree) :
    later.root.LinkFree := by
  intro names target isLink
  by_cases atPlace : names = place
  · obtain ⟨written, isFile⟩ := wrote.writesAt.after names atPlace
    cases isFile.symm.trans isLink
  · rw [wrote.writesAt.elsewhere names atPlace] at isLink
    exact linkFree names target isLink

/-- Without links a file that is written under a name in a folder is in the place of that. -/
theorem wrote_descend
    {disk later : Disk}
    {folder : Path}
    {name : Text}
    {content : List UInt8}
    {place : List Text}
    (linkFree : disk.root.LinkFree)
    (isFolder : disk.isFolder folder = .ok true)
    (leads : disk.place? folder = some place)
    (written : disk.write (folder.descend [name]) content = .ok later) :
    disk.Wrote later (folder.descend [name]) content (place ++ [name]) := by
  have sameStart : disk.start (folder.descend [name]) = disk.start folder := rfl
  have startIsFolder := shapeAt?_start_of_isFolder isFolder
  rw [← sameStart] at startIsFolder
  obtain ⟨ownPlace, wrote⟩ := exists_wrote_of_write startIsFolder written
  rwa [place_descend linkFree wrote.leads wrote.edits.before.notFolder leads] at wrote

end Disk

namespace Settings

/--
A report that is written for settings that pass the check is in their folder, under the name
that is set for it, exactly if this name has no slash; it is in the folder at all exactly if
the name is a path of one name, or a full path into the folder.  The document, wherever it is
written, is beside it.  On a disk without links a name without a slash makes the reports land
right in the place of the folder: nothing is written elsewhere.
-/
theorem reports_inFolder_iff
    {settings : Settings}
    {disk : Disk}
    {plan : Plan}
    {tally : Tally}
    {written : Report.Written}
    (accepted : (settings.check disk).result = .ok plan)
    (wrote : (Report.writeText disk tally plan.folder plan.outputName).result = .ok written) :
    settings.saveFolder disk = .ok plan.folder ∧
      settings.outputName = .string plan.outputName ∧
      (written.path.parent = plan.folder ∧ written.path.name = plan.outputName ↔
        '/' ∉ plan.outputName) ∧
      (written.path.parent = plan.folder ↔
        if (Path.ofText plan.outputName).anchor = .here then
          (Path.ofText plan.outputName).parts.length = 1
        else
          (Path.ofText plan.outputName).parent = plan.folder) ∧
      (∀ (later : Disk) (document : Report.Written),
        (Report.writeDocument later tally plan.folder plan.outputName).result = .ok document →
        document.path.parent = written.path.parent) ∧
      (disk.root.LinkFree → '/' ∉ plan.outputName →
        ∃ place, disk.place? plan.folder = some place ∧
          Disk.WritesAt (· = place ++ [plan.outputName]) disk written.disk ∧
          ∀ document : Report.Written,
            (Report.writeDocument written.disk tally plan.folder plan.outputName).result =
              .ok document →
            Disk.WritesAt (· = place ++ [Path.replaceSuffix ".json".toList plan.outputName])
              written.disk document.disk) := by
  have plans := plans_of_check accepted
  obtain ⟨_, taken, isPath⟩ := Report.writeText_eq_ok_iff.mp wrote
  have notFolder : Report.textPath plan.folder plan.outputName ≠ plan.folder :=
    Disk.ne_of_write plans.folderExists taken
  rw [isPath]
  refine ⟨plans.folder, plans.outputName, Report.textPath_kept_iff plans.named notFolder,
    Report.parent_textPath_iff notFolder, ?_, ?_⟩
  · intro later document wroteDocument
    obtain ⟨_, located, _⟩ := Report.writeDocument_eq_ok_iff.mp wroteDocument
    exact Path.parent_of_withSuffix? (Report.documentPath_eq_ok_iff.mp located)
  · intro linkFree noSlash
    obtain ⟨place, leads, _⟩ := Disk.isFolder_eq_true_iff.mp plans.folderExists
    have below := Report.textPath_of_ne_folder plans.named notFolder noSlash
    rw [below] at taken
    have wroteText := Disk.wrote_descend linkFree plans.folderExists leads taken
    refine ⟨place, leads, wroteText.writesAt, ?_⟩
    intro document wroteDocument
    obtain ⟨_, located, _, takenToo⟩ := Report.writeDocument_eq_ok_iff.mp wroteDocument
    rw [Report.documentPath_eq_ok_iff, below, Path.withSuffix?_descend] at located
    rw [← Option.some.inj located] at takenToo
    have folderExists := wroteText.editsFiles.isFolder_eq plan.folder
    have laterLeads := wroteText.editsFiles.place?_eq plan.folder
    rw [plans.folderExists] at folderExists
    rw [leads] at laterLeads
    exact (Disk.wrote_descend (wroteText.linkFree linkFree) folderExists laterLeads
      takenToo).writesAt

/-- A disk with an empty folder. -/
def emptyFolderDisk : Disk :=
  ⟨.folder [("out".toList, .folder [])], []⟩

/-- There are no links on this disk. -/
theorem linkFree_emptyFolderDisk :
    emptyFolderDisk.root.LinkFree :=
  Node.linkFree_folder (List.forall_mem_singleton.mpr (Node.linkFree_folder nofun))

/-- Settings for a report in the folder, under the given name. -/
def forReportIn
    (name : Text) :
    Settings :=
  { Settings.default with saveDir := .string "out".toList, outputName := .string name }

/-- The plan that follows from these settings. -/
def planForReportIn
    (name : Text) :
    Plan where
  extensions := [".m".toList]
  ignored := []
  excluded := []
  folder := .ofText "out".toList
  outputName := name
  charset := "utf-8".toList
  writeDocument := false

/-- The settings pass the check under any name that is not empty. -/
theorem check_forReportIn
    {name : Text}
    (named : name ≠ []) :
    ((forReportIn name).check emptyFolderDisk).result = .ok (planForReportIn name) := by
  have folderExists : emptyFolderDisk.isFolder (.ofText "out".toList) = .ok true := by
    decide +kernel
  have charsetKnown : isKnownCharset "utf-8".toList = .ok true :=
    isKnownCharset_iff.mpr ⟨by decide, .utf8, Charset.lookups.1⟩
  have found : (forReportIn name).facts emptyFolderDisk = .ok ⟨true, true⟩ :=
    facts_eq_ok rfl folderExists rfl charsetKnown
  have outputName : (forReportIn name).checkOutputName = .ok name := by
    simp [checkOutputName, forReportIn, Value.text?, named]
  simp only [check, found, Settings.plan, outputName]
  rfl

/-- What is written of no records at all into the folder, under the given name. -/
def writtenIn
    (name : Text) :
    Journal Report.Written :=
  Report.writeText emptyFolderDisk [] (.ofText "out".toList) name

/-- A report that can be written is written. -/
theorem exists_writtenIn
    {name : Text}
    (isOk : (writtenIn name).result.isOk = true) :
    ∃ written, (writtenIn name).result = .ok written := by
  cases wrote : (writtenIn name).result with
  | error fault =>
      rw [wrote] at isOk
      cases isOk
  | ok written =>
      exact ⟨written, rfl⟩

/-- A name without a slash keeps the report in the place of the folder. -/
theorem reports_inFolder_iff_emptyFolderDisk :
    ∃ written, (writtenIn "r.txt".toList).result = .ok written ∧
      written.path.parent = .ofText "out".toList ∧
      Disk.WritesAt (· = ["out".toList, "r.txt".toList]) emptyFolderDisk written.disk := by
  have accepted := @check_forReportIn "r.txt".toList (by decide)
  obtain ⟨written, wrote⟩ := @exists_writtenIn "r.txt".toList (by decide +kernel)
  obtain ⟨_, _, kept, _, _, lands⟩ := reports_inFolder_iff accepted wrote
  have noSlash : '/' ∉ (planForReportIn "r.txt".toList).outputName := by
    decide
  obtain ⟨place, leads, writesAt, _⟩ := lands linkFree_emptyFolderDisk noSlash
  have isPlace : emptyFolderDisk.place? (.ofText "out".toList) = some ["out".toList] := by
    decide +kernel
  rw [← Option.some.inj (isPlace.symm.trans leads)] at writesAt
  exact ⟨written, wrote, (kept.mpr noSlash).1, writesAt⟩

/-- A name that passes the check does not always keep the report in the folder. -/
theorem reports_not_always_inFolder :
    ¬ ∀ (settings : Settings) (disk : Disk) (plan : Plan) (tally : Tally)
        (written : Report.Written),
        (settings.check disk).result = .ok plan →
        (Report.writeText disk tally plan.folder plan.outputName).result = .ok written →
        written.path.parent = plan.folder ∧ written.path.name = plan.outputName := by
  intro always
  have accepted := @check_forReportIn "../r.txt".toList (by decide)
  obtain ⟨written, wrote⟩ := @exists_writtenIn "../r.txt".toList (by decide +kernel)
  obtain ⟨inFolder, _⟩ := always _ _ _ _ _ accepted wrote
  obtain ⟨_, _, isPath⟩ := Report.writeText_eq_ok_iff.mp wrote
  rw [isPath] at inFolder
  exact absurd inFolder (by decide)

end Settings

end LineTally
