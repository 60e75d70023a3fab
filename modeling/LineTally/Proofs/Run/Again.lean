import LineTally.Proofs.Run.Collecting
import LineTally.Proofs.Run.CountFiles
import LineTally.Proofs.Run.Reporting

namespace LineTally

/-!
# Running again

A run that succeeds has written its reports and nothing else.  To ask for the same run
again gives the same result and the same disk, as long as it does not collect a report of
the run before.
-/

namespace Counting

/-- A file that is not edited counts as before. -/
theorem countFile_of_editsFiles
    {disk later : Disk}
    (edits : disk.EditsFiles later)
    (charset : Text)
    {reference : FileRef}
    (spared :
      ∀ names, disk.place? (pathOf reference) = some names →
        later.root.bodyAt? names = disk.root.bodyAt? names) :
    countFile later charset reference = countFile disk charset reference := by
  by_cases refused : disk.RefusesPath (pathOf reference)
  · have laterRefused := (edits.refusesPath_iff _).mpr refused
    rw [countFile_of_refusesPath refused, countFile_of_refusesPath laterRefused]
  · have laterTaken := mt (edits.refusesPath_iff _).mp refused
    exact countFile_congr charset refused laterTaken (edits.body?_eq spared)

/-- Files of which none is edited count as before. -/
theorem countFiles_of_editsFiles
    {disk later : Disk}
    (edits : disk.EditsFiles later)
    (charset : Text)
    {references : List FileRef}
    (spared :
      ∀ reference ∈ references, ∀ names, disk.place? (pathOf reference) = some names →
        later.root.bodyAt? names = disk.root.bodyAt? names) :
    countFiles later charset references = countFiles disk charset references := by
  induction references with
  | nil =>
      rfl
  | cons reference rest inductionHypothesis =>
      obtain ⟨firstSpared, restSpared⟩ := List.forall_mem_cons.mp spared
      rw [countFiles, countFiles, countFile_of_editsFiles edits charset firstSpared,
        inductionHypothesis restSpared]

end Counting

/-- A place at which a plan has one of its reports. -/
def Plan.IsReportPlace
    (plan : Plan)
    (disk : Disk)
    (names : List Text) :
    Prop :=
  disk.place? (Report.textPath plan.folder plan.outputName) = some names ∨
    plan.writeDocument = true ∧
      ∃ path, Report.documentPath plan.folder plan.outputName = .ok path ∧
        disk.place? path = some names

namespace Report

/-- A report that has been written has a name without a slash. -/
theorem endsWithoutSlash_textPath
    {disk later : Disk}
    {folder : Path}
    {name : Text}
    {content : List UInt8}
    {place : List Text}
    (folderExists : disk.isFolder folder = .ok true)
    (wrote : disk.Wrote later (textPath folder name) content place) :
    Disk.EndsWithoutSlash (textPath folder name).parts := by
  have nameNoSlash : ∀ last ∈ (Path.ofText name).parts.getLast?, '/' ∉ last := by
    intro last isLast
    exact (Path.isNormal_ofText name last (List.mem_of_getLast? isLast)).2.1
  by_cases isInside : (Path.ofText name).anchor = .here
  · have inside :
        textPath folder name = ⟨folder.anchor, folder.parts ++ (Path.ofText name).parts⟩ := by
      rw [textPath, Path.join, if_pos isInside]
    cases named : (Path.ofText name).parts with
    | nil =>
        -- Then the path is that of the folder, which no report can take the place of.
        rw [named, List.append_nil] at inside
        obtain ⟨folderPlace, leads, isFolder⟩ := Disk.isFolder_eq_true_iff.mp folderExists
        have leadsToo := wrote.leads
        rw [inside] at leadsToo
        cases leads.symm.trans leadsToo
        exact (wrote.edits.before.notFolder isFolder).elim
    | cons first rest =>
        rw [named] at nameNoSlash
        intro last isLast
        rw [inside, named, List.getLast?_append_of_ne_nil _ (List.cons_ne_nil _ _)] at isLast
        exact nameNoSlash last isLast
  · rw [textPath, Path.join, if_neg isInside]
    exact nameNoSlash

/-- The document has a name without a slash if the text report has. -/
theorem endsWithoutSlash_documentPath
    {folder path : Path}
    {name : Text}
    (noSlash : Disk.EndsWithoutSlash (textPath folder name).parts)
    (located : documentPath folder name = .ok path) :
    Disk.EndsWithoutSlash path.parts := by
  obtain ⟨front, last, isText, isDocument⟩ :=
    Path.exists_of_withSuffix? (documentPath_eq_ok_iff.mp located)
  rw [isText] at noSlash
  have lastNoSlash : '/' ∉ last := noSlash last List.getLast?_concat
  intro documentLast isLast
  rw [isDocument, List.getLast?_concat] at isLast
  cases isLast
  intro slash
  rcases Path.mem_replaceSuffix slash with inLast | inSuffix
  · exact lastNoSlash inLast
  · exact absurd inSuffix (by decide)

end Report

namespace Request

namespace Survey.Ends

variable
  {request : Request}
  {disk later : Disk}
  {survey : Survey}
  {tally : Tally}

/-- A survey whose reports turn out well has been written at the places of these only. -/
theorem writesAt
    (surveyed : (request.survey disk).result = .ok survey)
    (ends : survey.Ends disk later (.ok tally)) :
    Disk.WritesAt (survey.plan.IsReportPlace disk) disk later := by
  cases ends with
  | textOnly single wroteText =>
      obtain ⟨place, wrote⟩ := exists_wrote_of_writesText surveyed wroteText
      have places : survey.plan.IsReportPlace disk = (· = place) := by
        funext names
        simp [Plan.IsReportPlace, single, wrote.leads, eq_comm]
      rw [places]
      exact wrote.writesAt
  | both double wroteText wroteDocument =>
      obtain ⟨place, wrote⟩ := exists_wrote_of_writesText surveyed wroteText
      obtain ⟨documentPlace, wroteToo⟩ :=
        exists_wrote_of_writesDocument surveyed wrote.editsFiles wroteDocument
      have documentLeads := wroteToo.leads
      rw [wrote.editsFiles.place?_eq] at documentLeads
      have places :
          survey.plan.IsReportPlace disk =
            fun names => names = place ∨ names = documentPlace := by
        funext names
        simp [Plan.IsReportPlace, double, wrote.leads, wroteDocument.located, documentLeads,
          eq_comm]
      rw [places]
      exact wrote.writesAt.trans wroteToo.writesAt

/-- A proper tree stays so when the reports of a survey are written. -/
theorem proper
    (surveyed : (request.survey disk).result = .ok survey)
    (ends : survey.Ends disk later (.ok tally))
    (proper : disk.root.Proper) :
    later.root.Proper := by
  have folderExists := (plans_of_survey surveyed).folderExists
  cases ends with
  | textOnly single wroteText =>
      obtain ⟨place, wrote⟩ := exists_wrote_of_writesText surveyed wroteText
      exact wrote.proper proper (Report.endsWithoutSlash_textPath folderExists wrote)
  | both double wroteText wroteDocument =>
      obtain ⟨place, wrote⟩ := exists_wrote_of_writesText surveyed wroteText
      obtain ⟨documentPlace, wroteToo⟩ :=
        exists_wrote_of_writesDocument surveyed wrote.editsFiles wroteDocument
      have noSlash := Report.endsWithoutSlash_textPath folderExists wrote
      exact wroteToo.proper (wrote.proper proper noSlash)
        (Report.endsWithoutSlash_documentPath noSlash wroteDocument.located)

/-- The reports of a survey that have turned out well change nothing if written again. -/
theorem again
    (surveyed : (request.survey disk).result = .ok survey)
    (ends : survey.Ends disk later (.ok tally)) :
    survey.Ends later later (.ok tally) := by
  cases ends with
  | textOnly single wroteText =>
      obtain ⟨place, wrote⟩ := exists_wrote_of_writesText surveyed wroteText
      exact .textOnly single ⟨wroteText.writable, wrote.write_same wrote.editsFiles wrote.holds⟩
  | @both middle _ path content double wroteText wroteDocument =>
      obtain ⟨place, wrote⟩ := exists_wrote_of_writesText surveyed wroteText
      obtain ⟨documentPlace, wroteToo⟩ :=
        exists_wrote_of_writesDocument surveyed wrote.editsFiles wroteDocument
      have edits := wrote.editsFiles.trans wroteToo.editsFiles
      by_cases samePlace : place = documentPlace
      · -- The text report is lost, and is lost again when the document is written again.
        subst samePlace
        have textAgain :=
          wrote.write_eq edits wroteToo.holds (Utf8.encode (Report.text survey.tally))
        have editsAgain :=
          wroteToo.editsFiles.trans
            (wrote.editsFiles_put edits (Utf8.encode (Report.text survey.tally)))
        have documentAgain :=
          wroteToo.write_eq editsAgain (wrote.fileAt?_put edits _) (Utf8.encode content)
        rw [Node.put_put, Node.put_self (Node.fileAt?_eq_some_iff.mp wroteToo.holds)]
          at documentAgain
        exact .both double ⟨wroteText.writable, textAgain⟩
          ⟨wroteDocument.located, wroteDocument.printed, documentAgain⟩
      · have textHolds :
            later.root.fileAt? place = some (Utf8.encode (Report.text survey.tally)) := by
          rw [wroteToo.fileAt?_elsewhere samePlace, wrote.holds]
        have documentAgain := wroteToo.write_same wroteToo.editsFiles wroteToo.holds
        exact .both double ⟨wroteText.writable, wrote.write_same edits textHolds⟩
          ⟨wroteDocument.located, wroteDocument.printed, documentAgain⟩

end Survey.Ends

/-- The files that a request collects from a disk. -/
def Collects
    (request : Request)
    (disk : Disk)
    (files : List Text) :
    Prop :=
  ∃ input plan,
    checkInput request.input = .ok input ∧
      (request.effectiveSettings.check disk).result = .ok plan ∧
      (Selection.collect disk plan.extensions plan.ignored plan.excluded input).result = .ok files

/-- A single file or folder that is asked for by a normal path or by a text is a normal path. -/
theorem isNormal_of_checkInput
    {value : Value}
    (normal : ∀ path, value = .path path → path.IsNormal)
    {reference : FileRef}
    (isInput : checkInput value = .ok (.single reference)) :
    reference.toPath.IsNormal := by
  rw [checkInput] at isInput
  split at isInput
  next input isValue =>
    cases isInput
    rw [Input.ofValue?] at isValue
    split at isValue
    next found isReference =>
      cases isValue
      cases value <;> cases isReference
      · exact Path.isNormal_ofText _
      · exact normal _ rfl
    next =>
      obtain ⟨items, _, isValue⟩ := Option.bind_eq_some_iff.mp isValue
      obtain ⟨references, _, isValue⟩ := Option.bind_eq_some_iff.mp isValue
      cases isValue
  next =>
    cases isInput

/-- A survey comes out the same after files have been written that it does not collect. -/
theorem survey_again
    {request : Request}
    {written : List Text → Prop}
    {disk later : Disk}
    {survey : Survey}
    (wellNamed : disk.root.WellNamed)
    (proper : later.root.Proper)
    (writes : Disk.WritesAt written disk later)
    (normal : ∀ path, request.input = .path path → path.IsNormal)
    (surveyed : (request.survey disk).result = .ok survey)
    (apart :
      ∀ files, request.Collects later files →
        ∀ file ∈ files, ∀ names, later.leads? (.ofText file) = some names → ¬ written names) :
    (request.survey later).result = .ok survey := by
  obtain ⟨input, files, isInput, checked, collected, counted⟩ := survey_eq_ok_iff.mp surveyed
  have edits := writes.editsFiles
  have checkedAgain : (request.effectiveSettings.check later).result = .ok survey.plan := by
    rw [Settings.check_eq edits, checked]
  have inputNormal : ∀ reference, input = .single reference → reference.toPath.IsNormal := by
    rintro reference rfl
    exact isNormal_of_checkInput normal isInput
  have collectedAgain :
      (Selection.collect later survey.plan.extensions survey.plan.ignored survey.plan.excluded
          input).result =
        .ok files := by
    rw [← collected]
    apply Selection.collect_again wellNamed proper writes inputNormal
    intro again isAgain
    exact apart again ⟨input, survey.plan, isInput, checkedAgain, isAgain⟩
  have filesApart := apart files ⟨input, survey.plan, isInput, checkedAgain, collectedAgain⟩
  have countedAgain :
      (Counting.countFiles later survey.plan.charset (files.map .ofText)).result =
        .ok survey.tally := by
    rw [← counted]
    congr 1
    apply Counting.countFiles_of_editsFiles edits
    intro reference member names leads
    obtain ⟨file, isCollected, rfl⟩ := List.mem_map.mp member
    have laterLeads : later.leads? (.ofText file) = some names := by
      rw [edits.leads?_eq]
      exact Disk.leads?_of_place? leads
    rw [Node.bodyAt?, Node.bodyAt?,
      writes.elsewhere names (filesApart file isCollected names laterLeads)]
  exact survey_eq_ok_iff.mpr
    ⟨input, files, isInput, checkedAgain, collectedAgain, countedAgain⟩

/--
A run that succeeds leaves the disk as it was but for its reports, each of which is a file
where its path leads.  On a disk that is proper, if the same request then collects no file
that is one of these reports, to run it again gives the same result and changes nothing.
-/
theorem run_writesReports_again
    {request : Request}
    {disk : Disk}
    {tally : Tally}
    (ended : (request.run disk).journal.result = .ok tally) :
    ∃ plan,
      (request.effectiveSettings.check disk).result = .ok plan ∧
        Disk.WritesAt (plan.IsReportPlace disk) disk (request.run disk).disk ∧
        (disk.root.Proper →
          (∀ path, request.input = .path path → path.IsNormal) →
          (∀ files, request.Collects (request.run disk).disk files →
            ∀ file ∈ files, ∀ names,
              (request.run disk).disk.leads? (.ofText file) = some names →
                ¬ plan.IsReportPlace disk names) →
          (request.run (request.run disk).disk).journal.result = .ok tally ∧
            (request.run (request.run disk).disk).disk = (request.run disk).disk) := by
  obtain ⟨survey, surveyed, ends⟩ := exists_survey_of_run ended
  obtain ⟨_, _, _, checked, _, _⟩ := survey_eq_ok_iff.mp surveyed
  have writes := ends.writesAt surveyed
  refine ⟨survey.plan, checked, writes, ?_⟩
  intro proper normal apart
  have surveyedAgain :=
    survey_again proper.wellNamed (ends.proper surveyed proper) writes normal surveyed apart
  have endsAgain : request.Ends _ _ _ := .reported surveyedAgain (ends.again surveyed)
  exact endsAgain.run_eq.symm

/-- A disk with a folder in which there is a file of one line. -/
def nestedDisk : Disk :=
  ⟨.folder
    [ ("sub".toList, .folder [("a.m".toList, .file (.bytes [0x78, 0x3D, 0x31, 0x3B, 0x0A]))]) ],
    []⟩

/-- This disk is proper. -/
theorem proper_nestedDisk :
    nestedDisk.root.Proper := by
  refine Node.proper_folder (by decide) (by decide) ?_
  rw [List.forall_mem_singleton]
  refine Node.proper_folder (by decide) (by decide) ?_
  rw [List.forall_mem_singleton]
  exact Node.proper_of_not_isFolder rfl

/-- A request to count all that is in the working folder, with the report in it. -/
def forWorkingFolder : Request where
  input := .string ".".toList

/-- The plan that follows from the request. -/
def workingFolderPlan : Plan where
  extensions := [".m".toList]
  ignored := []
  excluded := []
  folder := ⟨.root, []⟩
  outputName := Report.defaultName
  charset := "utf-8".toList
  writeDocument := false

/-- The report is in the folder that is counted, but it is not collected there. -/
theorem run_writesReports_again_nestedDisk :
    (forWorkingFolder.run nestedDisk).journal.result =
        .ok [⟨"sub/a.m".toList, ⟨1, 0, 0, 1⟩⟩] ∧
      (forWorkingFolder.run (forWorkingFolder.run nestedDisk).disk).journal.result =
        .ok [⟨"sub/a.m".toList, ⟨1, 0, 0, 1⟩⟩] ∧
      (forWorkingFolder.run (forWorkingFolder.run nestedDisk).disk).disk =
        (forWorkingFolder.run nestedDisk).disk := by
  obtain ⟨ended, planned, collected, leads, reportPlace⟩ :
      (forWorkingFolder.run nestedDisk).journal.result =
          .ok [⟨"sub/a.m".toList, ⟨1, 0, 0, 1⟩⟩] ∧
        (forWorkingFolder.effectiveSettings.check nestedDisk).result = .ok workingFolderPlan ∧
        (Selection.collect (forWorkingFolder.run nestedDisk).disk workingFolderPlan.extensions
            workingFolderPlan.ignored workingFolderPlan.excluded
            (.single (.ofText ".".toList))).result =
          .ok ["sub/a.m".toList] ∧
        (forWorkingFolder.run nestedDisk).disk.leads? (.ofText "sub/a.m".toList) =
          some ["sub".toList, "a.m".toList] ∧
        nestedDisk.place?
            (Report.textPath workingFolderPlan.folder workingFolderPlan.outputName) =
          some [Report.defaultName] := by
    decide +kernel
  obtain ⟨plan, checked, writes, again⟩ := run_writesReports_again ended
  cases planned.symm.trans checked
  refine ⟨ended, again proper_nestedDisk nofun ?_⟩
  rintro files ⟨input, otherPlan, isInput, checkedAgain, collectedAgain⟩
  intro file member names leadsTo
  rw [Settings.check_eq writes.editsFiles] at checkedAgain
  cases planned.symm.trans checkedAgain
  rw [← Except.ok.inj isInput] at collectedAgain
  rw [← Except.ok.inj (collected.symm.trans collectedAgain), List.mem_singleton] at member
  rw [member] at leadsTo
  rw [← Option.some.inj (leads.symm.trans leadsTo)]
  rintro (atText | ⟨double, _⟩)
  · exact absurd (reportPlace.symm.trans atText) (by decide)
  · cases double

end Request

end LineTally
