import LineTally.CommandLine.Program
import LineTally.Proofs.Run.Reporting
import LineTally.Proofs.Run.Spelled

namespace LineTally

/-!
# Runs that fail

A run that fails leaves the files as they were, but for two cases.  Where the document is
asked for and cannot be written, the text report has been written already.  And where a name
is no text, the text report cannot be encoded, but its file has been opened already, and is
empty from then on.  A program that ends with code 2 has not printed anything.
-/

namespace Request

/-- The values that a request lays over its settings do not choose the document. -/
theorem effectiveSettings_writeJson
    (request : Request) :
    request.effectiveSettings.writeJson = request.settings.writeJson := by
  simp only [effectiveSettings, Settings.merge, List.foldl_cons, List.foldl_nil]
  split_ifs <;> rfl

/--
What a run leaves behind whose document could not be written: the disk as it was, but
with the whole text report in the one file that its path leads to.
-/
structure Survey.LeavesText
    (survey : Survey)
    (disk later : Disk)
    (fault : Fault)
    (place : List Text) :
    Prop where
  leads : disk.place? (Report.textPath survey.plan.folder survey.plan.outputName) = some place
  here : later.here = disk.here
  onlyText : Node.EditsFile place disk.root later.root
  complete :
    later.HoldsText
      (Report.textPath survey.plan.folder survey.plan.outputName)
      (Report.text survey.tally)
  failed :
    (Report.writeDocument later survey.tally survey.plan.folder survey.plan.outputName).result =
      .error fault

/-- Reports that fail leave the disk as it was, or with the text report besides. -/
theorem Survey.Ends.unchanged_or_leavesText
    {survey : Survey}
    {disk later : Disk}
    {fault : Fault}
    (ends : survey.Ends disk later (.error fault))
    (folderExists : disk.isFolder survey.plan.folder = .ok true) :
    later = disk ∨
      survey.plan.writeDocument = true ∧ ∃ place, survey.LeavesText disk later fault place := by
  cases ends with
  | textFailed =>
      exact .inl rfl
  | documentFailed double wroteText failed =>
      obtain ⟨place, wrote⟩ := wroteText.exists_wrote folderExists
      exact .inr
        ⟨double, place, wrote.leads, wrote.editsFiles.here, wrote.edits,
          Disk.holdsText_iff.mpr wrote.content?_eq, failed⟩

/-- A plan asks for the document exactly if the settings of the request do. -/
theorem writeJson_of_plans
    {request : Request}
    {disk : Disk}
    {plan : Plan}
    (plans : request.effectiveSettings.Plans disk plan)
    (double : plan.writeDocument = true) :
    request.settings.writeJson = .bool true := by
  rw [← effectiveSettings_writeJson, plans.writeJson, double]

/-- A run that fails leaves the disk as it was, or with the text report besides. -/
theorem unchanged_or_leavesText
    {request : Request}
    {disk later : Disk}
    {fault : Fault}
    (ends : request.Ends disk later (.error fault)) :
    later = disk ∨
      ∃ survey place,
        (request.survey disk).result = .ok survey ∧
          request.settings.writeJson = .bool true ∧
          survey.LeavesText disk later fault place := by
  cases ends with
  | surveyFailed =>
      exact .inl rfl
  | @reported survey _ _ surveyed ends =>
      have plans := plans_of_survey surveyed
      rcases ends.unchanged_or_leavesText plans.folderExists with same | ⟨double, place, leavesText⟩
      · exact .inl same
      · exact .inr ⟨survey, place, surveyed, writeJson_of_plans plans double, leavesText⟩

/-- A run that is rejected leaves the disk as it was. -/
theorem unchanged_of_rejected
    {request : Request}
    {disk later : Disk}
    {complaint : Complaint}
    (ends : request.Ends disk later (.error (.rejected complaint))) :
    later = disk := by
  rcases unchanged_or_leavesText ends with same | ⟨survey, place, _, _, leavesText⟩
  · exact same
  · exact (Report.writeDocument_not_rejected complaint leavesText.failed).elim

end Request

namespace NamedRequest

/--
What a run that fails may leave behind: the disk as it was; or, where the document was asked
for and could not be written, the disk with the text report besides.
-/
def KeepsFiles
    (request : NamedRequest)
    (disk later : Disk)
    (fault : Report.SpelledFault) :
    Prop :=
  later = disk ∨
    ∃ survey reason place,
      fault = .plain reason ∧
        (request.survey disk).result = .ok (.ofSurvey survey) ∧
        request.besides.settings.writeJson = .bool true ∧
        survey.LeavesText disk later reason place

/--
How a run comes to empty the file of its text report: all is counted, the numbers can be
written, the file is opened, and one of the names is no text.
-/
structure Empties
    (request : NamedRequest)
    (survey : SpelledSurvey)
    (disk later : Disk) :
    Prop where
  surveyed : (request.survey disk).result = .ok survey
  writable : Report.isWritable survey.tally.unnamed = true
  opened : disk.write (Report.textPath survey.plan.folder survey.plan.outputName) [] = .ok later
  noText : ∃ record ∈ survey.tally, record.path.text? = none

/--
What a run leaves behind whose text report could not be encoded: the disk as it was, but
with nothing in the one file that the path of the report leads to.
-/
structure LeavesEmpty
    (survey : SpelledSurvey)
    (disk later : Disk)
    (place : List Text) :
    Prop where
  leads : disk.place? (Report.textPath survey.plan.folder survey.plan.outputName) = some place
  here : later.here = disk.here
  onlyText : Node.EditsFile place disk.root later.root
  empty : later.content? (Report.textPath survey.plan.folder survey.plan.outputName) = some []

variable
  {request : NamedRequest}
  {disk : Disk}

/-- A run with any names that comes to its reports ends as these turn out. -/
theorem run_of_survey
    {survey : SpelledSurvey}
    (surveyed : (request.survey disk).result = .ok survey) :
    (request.run disk).disk = (survey.report disk).disk ∧
      (request.run disk).result = (survey.report disk).result := by
  simp only [run, surveyed, and_self]

/-- A run that empties the file of its text report fails because it could not be encoded. -/
theorem Empties.run
    {survey : SpelledSurvey}
    {later : Disk}
    (empties : request.Empties survey disk later) :
    (request.run disk).disk = later ∧
      ∃ reason, (request.run disk).result = .error (.encode reason) := by
  obtain ⟨record, among, noText⟩ := empties.noText
  obtain ⟨reason, failed⟩ := Spelling.exists_encodeFrom_eq_error 0
    (Report.text?_spelledText_of_mem among noText)
  have reported : survey.report disk = ⟨later, [], .error (.encode reason)⟩ := by
    simp only [SpelledSurvey.report, empties.writable, if_true,
      Report.writeSpelled_of_opened failed empties.opened]
  rw [(run_of_survey empties.surveyed).1, (run_of_survey empties.surveyed).2, reported]
  exact ⟨rfl, reason, rfl⟩

/-- A run that empties the file of its text report leaves all else as it was. -/
theorem Empties.exists_leavesEmpty
    {survey : SpelledSurvey}
    {later : Disk}
    (empties : request.Empties survey disk later) :
    ∃ place, LeavesEmpty survey disk later place := by
  have folderExists := (plans_of_survey empties.surveyed).folderExists
  obtain ⟨place, wrote⟩ :=
    Disk.exists_wrote_of_write (Disk.shapeAt?_start_join folderExists _) empties.opened
  exact ⟨place, wrote.leads, wrote.editsFiles.here, wrote.edits, wrote.content?_eq⟩

/-- Reports of texts that fail keep the files. -/
theorem keepsFiles_of_texts
    {texts : Request.Survey}
    {reason : Fault}
    (surveyed : (request.survey disk).result = .ok (.ofSurvey texts))
    (failed : (texts.report disk).journal.result = .error reason) :
    request.KeepsFiles disk (texts.report disk).disk (.plain reason) := by
  have plans := plans_of_survey surveyed
  have folderExists : disk.isFolder texts.plan.folder = .ok true := plans.folderExists
  have ends := texts.ends_report disk
  rw [failed] at ends
  rcases ends.unchanged_or_leavesText folderExists with same | ⟨double, place, leaves⟩
  · exact .inl same
  · have asked := Request.writeJson_of_plans plans double
    exact .inr ⟨texts, reason, place, rfl, surveyed, asked, leaves⟩

/-- A run with any names that fails keeps the files or empties that of its text report. -/
theorem keepsFiles_or_empties
    {fault : Report.SpelledFault}
    (failed : (request.run disk).result = .error fault) :
    request.KeepsFiles disk (request.run disk).disk fault ∨
      ∃ survey, request.Empties survey disk (request.run disk).disk := by
  cases surveyed : (request.survey disk).result with
  | error reason =>
      exact .inl (.inl (by rw [run, surveyed]))
  | ok survey =>
      rw [(run_of_survey surveyed).1]
      rw [(run_of_survey surveyed).2] at failed
      have ends := survey.ends_report disk
      generalize survey.report disk = outcome at ends failed
      cases ends with
      | @ofTexts texts same =>
          subst same
          rw [SpelledOutcome.disk_ofOutcome]
          cases reported : (texts.report disk).journal.result with
          | ok tally =>
              rw [SpelledOutcome.ofOutcome, reported] at failed
              cases failed
          | error reason =>
              rw [SpelledOutcome.ofOutcome, reported] at failed
              cases failed
              exact .inl (keepsFiles_of_texts surveyed reported)
      | unwritten among noText =>
          exact .inl (.inl rfl)
      | emptied among noText writable opened =>
          exact .inr ⟨survey, surveyed, writable, opened, _, among, noText⟩

/-- A run with any names that fails keeps the files unless it changes one by emptying it. -/
theorem keepsFiles_iff
    {fault : Report.SpelledFault}
    (failed : (request.run disk).result = .error fault) :
    request.KeepsFiles disk (request.run disk).disk fault ↔
      ¬ ∃ survey later, request.Empties survey disk later ∧ later ≠ disk := by
  constructor
  · rintro kept ⟨survey, later, empties, changed⟩
    obtain ⟨isLater, reason, failedToo⟩ := empties.run
    rcases kept with same | ⟨_, _, _, isPlain, _⟩
    · exact changed (isLater.symm.trans same)
    · cases failed.symm.trans failedToo
      cases isPlain
  · intro emptiesNone
    rcases keepsFiles_or_empties failed with kept | ⟨survey, empties⟩
    · exact kept
    · by_contra notKept
      exact emptiesNone ⟨survey, _, empties, fun same => notKept (.inl same)⟩

/-- The reports of a survey with a name that is no text do not turn out well. -/
theorem exists_fault_of_noText
    {survey : SpelledSurvey}
    {record : SpelledRecord}
    (among : record ∈ survey.tally)
    (noText : record.path.text? = none) :
    ∃ fault, (survey.report disk).result = .error fault := by
  have ends := survey.ends_report disk
  generalize survey.report disk = outcome at ends ⊢
  cases ends with
  | ofTexts same =>
      subst same
      obtain ⟨text, _, rfl⟩ := List.mem_map.mp among
      cases noText.symm.trans (Spelling.text?_eq_some_iff.mpr rfl)
  | unwritten =>
      exact ⟨_, rfl⟩
  | emptied =>
      exact ⟨_, rfl⟩

/-- A run that has a string that leads nowhere among its files fails, early or late. -/
theorem exists_fault_of_lost
    {plan : Plan}
    {files : List NamedFile}
    {name : LostName}
    (checked : (request.besides.effectiveSettings.check disk).result = .ok plan)
    (collected :
      (NamedFile.collect disk plan.extensions plan.ignored plan.excluded request.input).result =
        .ok files)
    (among : .lost name ∈ files) :
    ∃ fault, (request.run disk).result = .error fault := by
  cases surveyed : (request.survey disk).result with
  | error fault =>
      exact ⟨.plain fault, by rw [run, surveyed]⟩
  | ok survey =>
      obtain ⟨checkedToo, found, collectedToo, counted⟩ := parts_of_survey surveyed
      cases checkedToo.symm.trans checked
      cases collectedToo.symm.trans collected
      rw [(run_of_survey surveyed).2]
      exact exists_fault_of_noText (NamedFile.record_of_lost counted among) name.text?_eq_none

end NamedRequest

namespace CommandLine

/-- A program that ends with code 2 has not printed anything. -/
theorem stdout_of_exit_two
    {release : Release}
    {disk : Disk}
    {arguments : List Text}
    (ended : (release.program disk arguments).ending = .exit 2) :
    (release.program disk arguments).stdout = [] := by
  rw [Release.program] at ended ⊢
  split at ended
  next halt _ =>
    rw [Halt.transcript] at ended ⊢
    split at ended
    · cases ended
    · rfl
  next parsed _ =>
    simp only [transcript] at ended ⊢
    split at ended
    · split_ifs at ended ⊢
      rfl
    · split_ifs at ended
      · split at ended <;> cases ended
      · cases ended

end CommandLine

namespace Request

/--
A run that fails leaves the disk as it was, unless its document was asked for and could
not be written: then the arguments have been accepted, the files counted, and the only
difference is the whole text report in the file that its path leads to.  A run that is
rejected or that fails before its reports changes nothing, and a program that ends with
code 2 has not printed anything.

A run with any names is such a run if they are texts.  If some name that it has collected is
no text, it fails.  Such a run keeps the files, too, unless all is counted, the file of the
text report is opened, and this makes or changes a file; and then all else is as it was.
-/
theorem failedRun_leavesFiles
    (disk : Disk) :
    (∀ (request : Request) (fault : Fault),
        (request.run disk).journal.result = .error fault →
        (request.run disk).disk = disk ∨
          ∃ survey place,
            (request.survey disk).result = .ok survey ∧
              request.settings.writeJson = .bool true ∧
              survey.LeavesText disk (request.run disk).disk fault place) ∧
      (∀ (request : Request) (complaint : Complaint),
        (request.run disk).journal.result = .error (.rejected complaint) →
        (request.run disk).disk = disk) ∧
      (∀ (request : Request) (fault : Fault),
        (request.survey disk).result = .error fault →
        (request.run disk).disk = disk ∧ (request.run disk).journal.result = .error fault) ∧
      (∀ (release : CommandLine.Release) (arguments : List Text),
        (release.program disk arguments).ending = .exit 2 →
        (release.program disk arguments).stdout = []) ∧
      (∀ (request : Request) (input : Input),
        checkInput request.input = .ok input →
        NamedRequest.run ⟨.ofInput input, request⟩ disk = .ofOutcome (request.run disk)) ∧
      (∀ (request : NamedRequest) (plan : Plan) (files : List NamedFile) (name : LostName),
        (request.besides.effectiveSettings.check disk).result = .ok plan →
        (NamedFile.collect disk plan.extensions plan.ignored plan.excluded
            request.input).result =
          .ok files →
        .lost name ∈ files →
        ∃ fault, (request.run disk).result = .error fault) ∧
      (∀ (request : NamedRequest) (fault : Report.SpelledFault),
        (request.run disk).result = .error fault →
        (request.KeepsFiles disk (request.run disk).disk fault ↔
          ¬ ∃ survey later, request.Empties survey disk later ∧ later ≠ disk)) ∧
      ∀ (request : NamedRequest) (survey : SpelledSurvey) (later : Disk),
        request.Empties survey disk later →
        (request.run disk).disk = later ∧
          (∃ reason, (request.run disk).result = .error (.encode reason)) ∧
          ∃ place, NamedRequest.LeavesEmpty survey disk later place := by
  refine ⟨?_, ?_, ?_, ?_, ?_, ?_, ?_, ?_⟩
  · intro request fault failed
    exact unchanged_or_leavesText (failed ▸ request.ends_run disk)
  · intro request complaint failed
    exact unchanged_of_rejected (failed ▸ request.ends_run disk)
  · intro request fault failed
    exact run_of_surveyFailed failed
  · intro release arguments ended
    exact CommandLine.stdout_of_exit_two ended
  · intro request input isInput
    exact NamedRequest.run_ofInput isInput
  · intro request plan files name checked collected among
    exact NamedRequest.exists_fault_of_lost checked collected among
  · intro request fault failed
    exact NamedRequest.keepsFiles_iff failed
  · intro request survey later empties
    obtain ⟨isLater, failed⟩ := empties.run
    exact ⟨isLater, failed, empties.exists_leavesEmpty⟩

/-- A disk with a file of one line and a folder where the document would go. -/
def blockedDisk : Disk :=
  ⟨.folder
    [ ("a.m".toList, .file (.bytes [0x78, 0x3D, 0x31, 0x3B, 0x0A])),
      ("lineCount.json".toList, .folder []) ],
    []⟩

/-- A request to count the file and to write both reports. -/
def forBothReports : Request where
  input := .string "a.m".toList
  settings := { Settings.default with writeJson := .bool true }

/-- A request for nothing, which is rejected. -/
def forNothing : Request where
  input := .absent

/-- A request to count the file by a charset that it cannot be read by. -/
def forUnfitCharset : Request where
  input := .string "a.m".toList
  settings := { Settings.default with encoding := .string "utf-16".toList }

/-- A string that is the name of no file on any disk, with half of a character at its start. -/
def lostName : LostName where
  spelling := [.half 0x4FF, .char '.', .char 'm']
  isLost := by decide +kernel

/-- A request to count the file and one that is nowhere. -/
def forLostName : NamedRequest where
  input := .listed [.known (.ofText "a.m".toList), .lost lostName]
  besides := { input := .absent }

/-- The plan of a run with the settings that there are without any choice. -/
def usualPlan : Plan where
  extensions := [".m".toList]
  ignored := []
  excluded := []
  folder := ⟨.root, []⟩
  outputName := Report.defaultName
  charset := "utf-8".toList
  writeDocument := false

/--
Where a folder stands in the way of the document, the text report is all that is left; a
request for nothing and one for an unfit charset change nothing; the program, given a
settings file that is not there, prints nothing; and a request for a name that is no text
fails and leaves an empty report.
-/
theorem failedRun_leavesFiles_blockedDisk :
    (∃ fault survey place,
        (forBothReports.run blockedDisk).journal.result = .error fault ∧
          (forBothReports.survey blockedDisk).result = .ok survey ∧
          survey.LeavesText blockedDisk (forBothReports.run blockedDisk).disk fault place) ∧
      (forNothing.run blockedDisk).disk = blockedDisk ∧
      (forUnfitCharset.run blockedDisk).disk = blockedDisk ∧
      (CommandLine.program blockedDisk
          ["a.m".toList, "--config".toList, "b.toml".toList]).stdout = [] ∧
      NamedRequest.run ⟨.single (.known (.ofText "a.m".toList)), forBothReports⟩ blockedDisk =
        .ofOutcome (forBothReports.run blockedDisk) ∧
      ∃ reason survey place,
        (forLostName.run blockedDisk).result = .error (.encode reason) ∧
          forLostName.Empties survey blockedDisk (forLostName.run blockedDisk).disk ∧
          NamedRequest.LeavesEmpty survey blockedDisk (forLostName.run blockedDisk).disk
            place := by
  obtain ⟨failed, rejected, surveyFailed, exitTwo, ofInput, lost, keeps, empties⟩ :=
    failedRun_leavesFiles blockedDisk
  -- evaluated at once, since the runs look up the same charset
  obtain ⟨isFolder, wroteText, checked, collected, wroteEmpty⟩ :
      (forBothReports.run blockedDisk).journal.result =
          .error
            (.unwritable "/lineCount.json".toList
              (.refused .isFolder "/lineCount.json".toList)) ∧
        (forBothReports.run blockedDisk).disk.root.shapeAt? ["lineCount.txt".toList] ≠
          blockedDisk.root.shapeAt? ["lineCount.txt".toList] ∧
        (forLostName.besides.effectiveSettings.check blockedDisk).result = .ok usualPlan ∧
        (NamedFile.collect blockedDisk usualPlan.extensions usualPlan.ignored
            usualPlan.excluded forLostName.input).result =
          .ok [.known (.ofText "a.m".toList), .lost lostName] ∧
        (forLostName.run blockedDisk).disk.root.shapeAt? ["lineCount.txt".toList] ≠
          blockedDisk.root.shapeAt? ["lineCount.txt".toList] := by
    decide +kernel
  refine ⟨?_, ?_, ?_, ?_, ?_, ?_⟩
  · rcases failed _ _ isFolder with same | ⟨survey, place, surveyed, _, leavesText⟩
    · rw [same] at wroteText
      exact (wroteText rfl).elim
    · exact ⟨_, survey, place, isFolder, surveyed, leavesText⟩
  · exact rejected _ .input (by decide +kernel)
  · have unfit :
        (forUnfitCharset.survey blockedDisk).result =
          .error (.decode (.noByteOrder "UTF-16".toList)) := by
      decide +kernel
    exact (surveyFailed _ _ unfit).1
  · exact exitTwo CommandLine.startRelease _ (by decide +kernel)
  · exact ofInput forBothReports (.single (.ofText "a.m".toList)) rfl
  · obtain ⟨fault, failedToo⟩ := lost _ _ _ lostName checked collected (by simp)
    have notKept :
        ¬ forLostName.KeepsFiles blockedDisk (forLostName.run blockedDisk).disk fault := by
      rintro (same | ⟨_, _, _, _, _, asked, _⟩)
      · rw [same] at wroteEmpty
        exact wroteEmpty rfl
      · cases asked
    obtain ⟨survey, later, emptiesLater, _⟩ := not_not.mp (mt (keeps _ _ failedToo).mpr notKept)
    obtain ⟨rfl, ⟨reason, isEncode⟩, place, leaves⟩ := empties _ _ _ emptiesLater
    exact ⟨reason, survey, place, isEncode, emptiesLater, leaves⟩

/-- A disk with a file of one line and a report of an earlier run. -/
def reportedDisk : Disk :=
  ⟨.folder
    [ ("a.m".toList, .file (.bytes [0x78, 0x3D, 0x31, 0x3B, 0x0A])),
      (Report.defaultName, .file (.bytes [0x0A])) ],
    []⟩

/--
A run that fails does not always keep the files: a name that is no text empties the report
of an earlier run, though the run was not asked for the document.
-/
theorem failedRun_not_always_leavesFiles :
    reportedDisk.content? (.ofText Report.defaultName) = some [0x0A] ∧
      (forLostName.run reportedDisk).result = .error (.encode ⟨114, 0x4FF, 0⟩) ∧
      (forLostName.run reportedDisk).disk.content? (.ofText Report.defaultName) = some [] ∧
      ¬ ∀ (request : NamedRequest) (disk : Disk) (fault : Report.SpelledFault),
        (request.run disk).result = .error fault →
        request.KeepsFiles disk (request.run disk).disk fault := by
  obtain ⟨before, failed, emptied⟩ :
      reportedDisk.content? (.ofText Report.defaultName) = some [0x0A] ∧
        (forLostName.run reportedDisk).result = .error (.encode ⟨114, 0x4FF, 0⟩) ∧
        (forLostName.run reportedDisk).disk.content? (.ofText Report.defaultName) = some [] := by
    decide +kernel
  refine ⟨before, failed, emptied, fun always => ?_⟩
  rcases always forLostName reportedDisk _ failed with same | ⟨_, _, _, isPlain, _⟩
  · rw [same, before] at emptied
    cases emptied
  · cases isPlain

end Request

end LineTally
