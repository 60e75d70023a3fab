import LineTally.Proofs.Disk.HoldsText
import LineTally.Proofs.Path.Suffix
import LineTally.Proofs.Settings.Check
import LineTally.Run.Basic

namespace LineTally

/-!
# How a run ends

A run writes its reports after all that can be wrong with its arguments and files has
come to light: first the text report, then the document if one is asked for.  So there
are only a few ways in which it can end, and each of them settles what is on the disk.
-/

namespace Report

variable
  {disk : Disk}
  {path folder : Path}
  {name content : Text}
  {tally : Tally}

/-- A report that is written is on the disk and is noted. -/
theorem write_of_written
    {later : Disk}
    (written : disk.write path (Utf8.encode content) = .ok later) :
    Report.write disk path content =
      ⟨[⟨.info, .report, path.name ++ " created.".toList⟩], .ok ⟨later, path⟩⟩ := by
  rw [Report.write, written]
  rfl

/-- A report is written exactly if the disk takes its bytes under its path. -/
theorem write_eq_ok_iff
    {written : Written} :
    (Report.write disk path content).result = .ok written ↔
      disk.write path (Utf8.encode content) = .ok written.disk ∧ written.path = path := by
  cases outcome : disk.write path (Utf8.encode content) with
  | error fault =>
      rw [Report.write, outcome]
      cases fault <;> simp [Journal.fail]
  | ok later =>
      rw [write_of_written outcome]
      constructor
      · intro made
        cases made
        exact ⟨rfl, rfl⟩
      · rintro ⟨sameDisk, samePath⟩
        cases sameDisk
        cases samePath
        rfl

/-- What keeps a report from being written is no matter of arguments or settings. -/
theorem write_not_rejected
    (complaint : Complaint) :
    (Report.write disk path content).result ≠ .error (.rejected complaint) := by
  cases outcome : disk.write path (Utf8.encode content) with
  | error fault =>
      rw [Report.write, outcome]
      cases fault <;> simp [Journal.fail]
  | ok later =>
      rw [write_of_written outcome]
      simp

/-- The text report is written if its numbers can be and the disk takes it. -/
theorem writeText_eq_ok_iff
    {written : Written} :
    (writeText disk tally folder name).result = .ok written ↔
      isWritable tally = true ∧
        disk.write (textPath folder name) (Utf8.encode (text tally)) = .ok written.disk ∧
        written.path = textPath folder name := by
  rw [writeText, Journal.result_bind, writtenText]
  cases isWritable tally with
  | false =>
      simp [Journal.ofExcept, Except.mapError, Except.bind]
  | true =>
      simp only [if_true, Journal.ofExcept, Except.mapError, Except.bind, write_eq_ok_iff, true_and]

/-- The document is written if it has a path, its numbers can be and the disk takes it. -/
theorem writeDocument_eq_ok_iff
    {written : Written} :
    (writeDocument disk tally folder name).result = .ok written ↔
      ∃ content, documentPath folder name = .ok written.path ∧
        documentText tally = .ok content ∧
        disk.write written.path (Utf8.encode content) = .ok written.disk := by
  rw [writeDocument, Journal.result_bind]
  cases located : documentPath folder name with
  | error fault =>
      simp [Journal.ofExcept, Except.bind]
  | ok path =>
      cases printed : documentText tally with
      | error fault =>
          simp [Journal.ofExcept, Except.mapError, Except.bind, Journal.result_bind]
      | ok content =>
          simp only [Journal.ofExcept, Except.mapError, Except.bind, Journal.result_bind,
            write_eq_ok_iff, Except.ok.injEq]
          constructor
          · rintro ⟨taken, rfl⟩
            exact ⟨content, rfl, rfl, taken⟩
          · rintro ⟨_, rfl, rfl, taken⟩
            exact ⟨taken, rfl⟩

/-- The path of the document is that of the text report with another suffix. -/
theorem documentPath_eq_ok_iff :
    documentPath folder name = .ok path ↔
      (textPath folder name).withSuffix? ".json".toList = some path := by
  rw [documentPath]
  split
  next found made =>
    rw [made, Except.ok.injEq, Option.some.injEq]
  next missing =>
    rw [missing]
    exact iff_of_false nofun nofun

/-- What keeps the document from being written is no matter of arguments or settings. -/
theorem writeDocument_not_rejected
    (complaint : Complaint) :
    (writeDocument disk tally folder name).result ≠ .error (.rejected complaint) := by
  rw [writeDocument, Journal.result_bind, documentPath]
  cases (textPath folder name).withSuffix? ".json".toList with
  | none =>
      simp [Journal.ofExcept, Except.bind]
  | some path =>
      simp only [Journal.ofExcept, Except.bind, Journal.result_bind]
      cases documentText tally with
      | error fault =>
          simp [Except.mapError]
      | ok content =>
          exact write_not_rejected complaint

end Report

namespace Request

namespace Survey

/-- The text report of a survey has been written. -/
structure WritesText
    (survey : Survey)
    (disk later : Disk) :
    Prop where
  writable : Report.isWritable survey.tally = true
  written :
    disk.write (Report.textPath survey.plan.folder survey.plan.outputName)
        (Utf8.encode (Report.text survey.tally)) =
      .ok later

/-- The document of a survey has been written. -/
structure WritesDocument
    (survey : Survey)
    (disk later : Disk)
    (path : Path)
    (content : Text) :
    Prop where
  located : Report.documentPath survey.plan.folder survey.plan.outputName = .ok path
  printed : Report.documentText survey.tally = .ok content
  written : disk.write path (Utf8.encode content) = .ok later

/-- How the reports of a survey can turn out: what is on the disk then, and the result. -/
inductive Ends
    (survey : Survey)
    (disk : Disk) :
    Disk → Except Fault Tally → Prop where
  | textFailed
      {fault : Fault}
      (failed :
        (Report.writeText disk survey.tally survey.plan.folder survey.plan.outputName).result =
          .error fault) :
      Ends survey disk disk (.error fault)
  | textOnly
      {later : Disk}
      (single : survey.plan.writeDocument = false)
      (wroteText : survey.WritesText disk later) :
      Ends survey disk later (.ok survey.tally)
  | documentFailed
      {later : Disk}
      {fault : Fault}
      (double : survey.plan.writeDocument = true)
      (wroteText : survey.WritesText disk later)
      (failed :
        (Report.writeDocument later survey.tally survey.plan.folder
            survey.plan.outputName).result =
          .error fault) :
      Ends survey disk later (.error fault)
  | both
      {middle later : Disk}
      {path : Path}
      {content : Text}
      (double : survey.plan.writeDocument = true)
      (wroteText : survey.WritesText disk middle)
      (wroteDocument : survey.WritesDocument middle later path content) :
      Ends survey disk later (.ok survey.tally)

/-- The reports of a survey turn out in one of these ways. -/
theorem ends_report
    (survey : Survey)
    (disk : Disk) :
    survey.Ends disk (survey.report disk).disk (survey.report disk).journal.result := by
  rw [report, Outcome.afterWriting]
  split
  next written isWritten =>
    obtain ⟨writable, taken, _⟩ := Report.writeText_eq_ok_iff.mp isWritten
    simp only [reportDocument]
    cases double : survey.plan.writeDocument with
    | false =>
        exact .textOnly double ⟨writable, taken⟩
    | true =>
        simp only [if_true, Outcome.afterWriting]
        split
        next document isDocument =>
          obtain ⟨content, located, printed, takenToo⟩ :=
            Report.writeDocument_eq_ok_iff.mp isDocument
          exact .both double ⟨writable, taken⟩ ⟨located, printed, takenToo⟩
        next fault failed =>
          exact .documentFailed double ⟨writable, taken⟩ failed
  next fault failed =>
    exact .textFailed failed

/-- The text report of a survey that is written is what writing it gives. -/
theorem WritesText.result_eq
    {survey : Survey}
    {disk later : Disk}
    (wroteText : survey.WritesText disk later) :
    (Report.writeText disk survey.tally survey.plan.folder survey.plan.outputName).result =
      .ok ⟨later, Report.textPath survey.plan.folder survey.plan.outputName⟩ :=
  Report.writeText_eq_ok_iff.mpr ⟨wroteText.writable, wroteText.written, rfl⟩

/-- The document of a survey that is written is what writing it gives. -/
theorem WritesDocument.result_eq
    {survey : Survey}
    {disk later : Disk}
    {path : Path}
    {content : Text}
    (wroteDocument : survey.WritesDocument disk later path content) :
    (Report.writeDocument disk survey.tally survey.plan.folder survey.plan.outputName).result =
      .ok ⟨later, path⟩ :=
  Report.writeDocument_eq_ok_iff.mpr
    ⟨content, wroteDocument.located, wroteDocument.printed, wroteDocument.written⟩

/-- Reports that turn out well give the tally of their survey. -/
theorem Ends.tally_eq
    {survey : Survey}
    {disk later : Disk}
    {tally : Tally}
    (ends : survey.Ends disk later (.ok tally)) :
    survey.tally = tally := by
  cases ends <;> rfl

/-- The reports of a survey turn out in one way only. -/
theorem Ends.report_eq
    {survey : Survey}
    {disk later : Disk}
    {result : Except Fault Tally}
    (ends : survey.Ends disk later result) :
    (survey.report disk).disk = later ∧ (survey.report disk).journal.result = result := by
  cases ends with
  | textFailed failed =>
      rw [report, Outcome.afterWriting, failed]
      exact ⟨rfl, rfl⟩
  | textOnly single wroteText =>
      rw [report, Outcome.afterWriting, wroteText.result_eq]
      simp [reportDocument, single, Journal.pure]
  | documentFailed double wroteText failed =>
      rw [report, Outcome.afterWriting, wroteText.result_eq]
      simp [reportDocument, double, Outcome.afterWriting, failed]
  | both double wroteText wroteDocument =>
      rw [report, Outcome.afterWriting, wroteText.result_eq]
      simp [reportDocument, double, Outcome.afterWriting, wroteDocument.result_eq, Journal.pure]

end Survey

/-- How a run can end: before its reports, or as these turn out. -/
inductive Ends
    (request : Request)
    (disk : Disk) :
    Disk → Except Fault Tally → Prop where
  | surveyFailed
      {fault : Fault}
      (failed : (request.survey disk).result = .error fault) :
      Ends request disk disk (.error fault)
  | reported
      {survey : Survey}
      {later : Disk}
      {result : Except Fault Tally}
      (surveyed : (request.survey disk).result = .ok survey)
      (ends : survey.Ends disk later result) :
      Ends request disk later result

/-- A run without a survey ends with the fault of the survey and changes nothing. -/
theorem run_of_surveyFailed
    {request : Request}
    {disk : Disk}
    {fault : Fault}
    (failed : (request.survey disk).result = .error fault) :
    (request.run disk).disk = disk ∧ (request.run disk).journal.result = .error fault := by
  simp only [run, failed, and_self]

/-- A run with a survey ends as the reports of the survey turn out. -/
theorem run_of_survey
    {request : Request}
    {disk : Disk}
    {survey : Survey}
    (surveyed : (request.survey disk).result = .ok survey) :
    (request.run disk).disk = (survey.report disk).disk ∧
      (request.run disk).journal.result = (survey.report disk).journal.result := by
  simp only [run, surveyed, and_self]

/-- A run ends in one of these ways. -/
theorem ends_run
    (request : Request)
    (disk : Disk) :
    request.Ends disk (request.run disk).disk (request.run disk).journal.result := by
  cases surveyed : (request.survey disk).result with
  | error fault =>
      rw [(run_of_surveyFailed surveyed).1, (run_of_surveyFailed surveyed).2]
      exact .surveyFailed surveyed
  | ok survey =>
      rw [(run_of_survey surveyed).1, (run_of_survey surveyed).2]
      exact .reported surveyed (survey.ends_report disk)

/-- A run ends in one way only. -/
theorem Ends.run_eq
    {request : Request}
    {disk later : Disk}
    {result : Except Fault Tally}
    (ends : request.Ends disk later result) :
    (request.run disk).disk = later ∧ (request.run disk).journal.result = result := by
  cases ends with
  | surveyFailed failed =>
      exact run_of_surveyFailed failed
  | reported surveyed ends =>
      rw [(run_of_survey surveyed).1, (run_of_survey surveyed).2]
      exact ends.report_eq

/-- A run that succeeds has a survey, and its reports have turned out well. -/
theorem exists_survey_of_run
    {request : Request}
    {disk : Disk}
    {tally : Tally}
    (ended : (request.run disk).journal.result = .ok tally) :
    ∃ survey,
      (request.survey disk).result = .ok survey ∧
        survey.Ends disk (request.run disk).disk (.ok tally) := by
  have ends := request.ends_run disk
  rw [ended] at ends
  generalize (request.run disk).disk = later at ends ⊢
  cases ends with
  | reported surveyed ends =>
      exact ⟨_, surveyed, ends⟩

/-- What a survey is made of: the checked arguments, the files and their records. -/
theorem survey_eq_ok_iff
    {request : Request}
    {disk : Disk}
    {survey : Survey} :
    (request.survey disk).result = .ok survey ↔
      ∃ input files, checkInput request.input = .ok input ∧
        (request.effectiveSettings.check disk).result = .ok survey.plan ∧
        (Selection.collect disk survey.plan.extensions survey.plan.ignored
            survey.plan.excluded input).result =
          .ok files ∧
        (Counting.countFiles disk survey.plan.charset (files.map .ofText)).result =
          .ok survey.tally := by
  obtain ⟨plan, tally⟩ := survey
  simp only [Request.survey, Journal.result_bind, Journal.ofExcept]
  constructor
  · intro surveyed
    obtain ⟨input, isInput, surveyed⟩ := Except.bind_eq_ok_iff.mp surveyed
    obtain ⟨found, checked, surveyed⟩ := Except.bind_eq_ok_iff.mp surveyed
    obtain ⟨files, collected, surveyed⟩ := Except.bind_eq_ok_iff.mp surveyed
    obtain ⟨records, counted, made⟩ := Except.bind_eq_ok_iff.mp surveyed
    cases made
    exact ⟨input, files, isInput, checked, collected, counted⟩
  · rintro ⟨input, files, isInput, checked, collected, counted⟩
    rw [isInput, Except.bind, checked, Except.bind, collected, Except.bind, counted]
    rfl

/-- The plan of a survey follows from the settings that the request comes to. -/
theorem plans_of_survey
    {request : Request}
    {disk : Disk}
    {survey : Survey}
    (surveyed : (request.survey disk).result = .ok survey) :
    request.effectiveSettings.Plans disk survey.plan := by
  obtain ⟨_, _, _, checked, _, _⟩ := survey_eq_ok_iff.mp surveyed
  exact Settings.plans_of_check checked

/-- A text report that is written into a folder is in one file, at the place of its path. -/
theorem Survey.WritesText.exists_wrote
    {survey : Survey}
    {disk later : Disk}
    (wroteText : survey.WritesText disk later)
    (folderExists : disk.isFolder survey.plan.folder = .ok true) :
    ∃ place,
      disk.Wrote later (Report.textPath survey.plan.folder survey.plan.outputName)
        (Utf8.encode (Report.text survey.tally)) place :=
  Disk.exists_wrote_of_write (Disk.shapeAt?_start_join folderExists _) wroteText.written

/-- The text report of a survey is written into one file, at the place of its path. -/
theorem exists_wrote_of_writesText
    {request : Request}
    {disk later : Disk}
    {survey : Survey}
    (surveyed : (request.survey disk).result = .ok survey)
    (wroteText : survey.WritesText disk later) :
    ∃ place,
      disk.Wrote later (Report.textPath survey.plan.folder survey.plan.outputName)
        (Utf8.encode (Report.text survey.tally)) place :=
  wroteText.exists_wrote (plans_of_survey surveyed).folderExists

/-- The document of a survey is written into one file, too, after the text report. -/
theorem exists_wrote_of_writesDocument
    {request : Request}
    {disk middle later : Disk}
    {survey : Survey}
    {path : Path}
    {content : Text}
    (surveyed : (request.survey disk).result = .ok survey)
    (edits : disk.EditsFiles middle)
    (wroteDocument : survey.WritesDocument middle later path content) :
    ∃ place, middle.Wrote later path (Utf8.encode content) place := by
  have folderExists := (plans_of_survey surveyed).folderExists
  have sameStart :
      middle.start path =
        disk.start (Report.textPath survey.plan.folder survey.plan.outputName) := by
    obtain ⟨_, _, _, rfl⟩ :=
      Path.exists_of_withSuffix? (Report.documentPath_eq_ok_iff.mp wroteDocument.located)
    rw [Disk.start, Disk.start, edits.here]
  apply Disk.exists_wrote_of_write _ wroteDocument.written
  rw [sameStart, edits.root.isFolder_iff]
  exact Disk.shapeAt?_start_join folderExists _

namespace Survey.Ends

variable
  {request : Request}
  {disk later : Disk}
  {survey : Survey}
  {tally : Tally}

/-- The numbers of a tally whose reports turn out well can be written. -/
theorem isWritable
    (ends : survey.Ends disk later (.ok tally)) :
    Report.isWritable tally = true := by
  cases ends with
  | textOnly single wroteText => exact wroteText.writable
  | both double wroteText wroteDocument => exact wroteText.writable

/-- A document that is asked for is in its file if the reports turn out well. -/
theorem holdsDocument
    (surveyed : (request.survey disk).result = .ok survey)
    (ends : survey.Ends disk later (.ok tally))
    (double : survey.plan.writeDocument = true) :
    ∃ path content,
      Report.documentPath survey.plan.folder survey.plan.outputName = .ok path ∧
        Report.documentText tally = .ok content ∧
        later.HoldsText path content := by
  cases ends with
  | textOnly single wroteText =>
      cases single.symm.trans double
  | @both middle _ path content double wroteText wroteDocument =>
      obtain ⟨place, wrote⟩ := exists_wrote_of_writesText surveyed wroteText
      obtain ⟨documentPlace, wroteToo⟩ :=
        exists_wrote_of_writesDocument surveyed wrote.editsFiles wroteDocument
      exact ⟨path, content, wroteDocument.located, wroteDocument.printed,
        Disk.holdsText_iff.mpr wroteToo.content?_eq⟩

/-- The text report is in its file if no document has been written to the same file. -/
theorem holdsText_of_apart
    (surveyed : (request.survey disk).result = .ok survey)
    (ends : survey.Ends disk later (.ok tally))
    (isApart : survey.plan.writeDocument = true → ∀ path,
      Report.documentPath survey.plan.folder survey.plan.outputName = .ok path →
        later.place? path ≠
          later.place? (Report.textPath survey.plan.folder survey.plan.outputName)) :
    later.HoldsText (Report.textPath survey.plan.folder survey.plan.outputName)
      (Report.text tally) := by
  cases ends with
  | textOnly single wroteText =>
      obtain ⟨place, wrote⟩ := exists_wrote_of_writesText surveyed wroteText
      exact Disk.holdsText_iff.mpr wrote.content?_eq
  | @both middle _ path content double wroteText wroteDocument =>
      obtain ⟨place, wrote⟩ := exists_wrote_of_writesText surveyed wroteText
      obtain ⟨documentPlace, wroteToo⟩ :=
        exists_wrote_of_writesDocument surveyed wrote.editsFiles wroteDocument
      have leads : later.place? (Report.textPath survey.plan.folder survey.plan.outputName) =
          some place := by
        rw [wroteToo.editsFiles.place?_eq, wrote.editsFiles.place?_eq, wrote.leads]
      have elsewhere : place ≠ documentPlace := by
        rintro rfl
        apply isApart double path wroteDocument.located
        rw [leads, wroteToo.editsFiles.place?_eq, wroteToo.leads]
      rw [Disk.holdsText_iff, Disk.content?, leads, Option.bind_some,
        wroteToo.fileAt?_elsewhere elsewhere, wrote.holds]

end Survey.Ends

end Request

end LineTally
