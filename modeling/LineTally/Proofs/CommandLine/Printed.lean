import LineTally.Proofs.CommandLine.Shown
import LineTally.Proofs.Run.BothReports
import LineTally.Proofs.Run.FailedRun

namespace LineTally.CommandLine

/-!
# What is printed

A program that succeeds prints nothing unless it is asked to, and then the report that it
has just written: the document if one is asked for on the command line, and else the text.
Printing cannot fail after the report has been written.  So to print and to tell more of a
run changes neither how the program ends nor what it leaves on the disk.
-/

namespace Arguments

variable
  {arguments : Arguments}
  {disk : Disk}
  {tally : Tally}

/-- The plan of the run that a command line asks for. -/
def Plans
    (arguments : Arguments)
    (disk : Disk)
    (plan : Plan) :
    Prop :=
  ∃ settings,
    (arguments.baseSettings disk).result = .ok settings ∧
      ((arguments.request settings).effectiveSettings.check disk).result = .ok plan

/-- A run that succeeds has loaded its settings and written the reports of its survey. -/
theorem exists_survey_of_run
    (ended : (arguments.run disk).journal.result = .ok tally) :
    ∃ settings survey,
      (arguments.baseSettings disk).result = .ok settings ∧
        ((arguments.request settings).survey disk).result = .ok survey ∧
        survey.Ends disk (arguments.run disk).disk (.ok tally) := by
  rw [run] at ended ⊢
  cases loaded : (arguments.baseSettings disk).result with
  | error fault =>
      simp only [loaded] at ended
      cases ended
  | ok settings =>
      simp only [loaded] at ended ⊢
      obtain ⟨survey, surveyed, ends⟩ := Request.exists_survey_of_run ended
      exact ⟨settings, survey, rfl, surveyed, ends⟩

/-- A document that is asked for on the command line is written. -/
theorem writeDocument_of_json
    {settings : Settings}
    {survey : Request.Survey}
    (json : arguments.json = true)
    (surveyed : ((arguments.request settings).survey disk).result = .ok survey) :
    survey.plan.writeDocument = true := by
  have chosen := (Request.plans_of_survey surveyed).writeJson
  have isTrue : (arguments.request settings).settings.writeJson = .bool true := by
    simp only [request, overrides, json, Settings.merge, List.foldl_cons, List.foldl_nil]
    rfl
  rw [Request.effectiveSettings_writeJson, isTrue, Value.bool.injEq] at chosen
  exact chosen.symm

/-- The report of a run that succeeds can be printed. -/
theorem exists_printed_of_run
    (ended : (arguments.run disk).journal.result = .ok tally) :
    ∃ report, arguments.printed tally = .ok report := by
  obtain ⟨settings, survey, -, surveyed, ends⟩ := exists_survey_of_run ended
  cases json : arguments.json with
  | true =>
      obtain ⟨path, content, -, isPrinted, -⟩ :=
        ends.holdsDocument surveyed (writeDocument_of_json json surveyed)
      exact ⟨content, by simp [printed, json, isPrinted, Except.mapError]⟩
  | false =>
      exact ⟨Report.text tally,
        by simp [printed, json, Report.writtenText, ends.isWritable, Except.mapError]⟩

end Arguments

/-! ## Transcripts -/

/-- How a program ends whose run has the given result. -/
def Ending.ofResult :
    Except Fault Tally → Ending
  | .ok _ => .exit 0
  | .error cause => if cause.isOwn then .exit 2 else .fault cause

section Transcripts

variable
  {arguments others : Arguments}
  {disk : Disk}
  {tally : Tally}

/-- What a program leaves on the disk is what its run leaves there. -/
theorem disk_transcript
    (arguments : Arguments)
    (outcome : Outcome Tally) :
    (transcript arguments outcome).disk = outcome.disk := by
  rw [transcript]
  split
  · split_ifs <;> rfl
  · split_ifs
    · split <;> rfl
    · rfl

/-- A program ends as its run does, whether it prints or not. -/
theorem ending_transcript
    (arguments : Arguments)
    (disk : Disk) :
    (transcript arguments (arguments.run disk)).ending =
      .ofResult (arguments.run disk).journal.result := by
  rw [transcript]
  split
  next fault failed =>
    rw [failed, Ending.ofResult]
    split_ifs <;> rfl
  next tally ended =>
    obtain ⟨report, isPrinted⟩ := Arguments.exists_printed_of_run ended
    rw [ended, isPrinted]
    split_ifs <;> rfl

/-- A program whose run succeeds prints the report if it is asked to, and else nothing. -/
theorem stdout_transcript
    {report : Text}
    (ended : (arguments.run disk).journal.result = .ok tally)
    (isPrinted : arguments.printed tally = .ok report) :
    (transcript arguments (arguments.run disk)).stdout =
      if arguments.print then report ++ ['\n'] else [] := by
  rw [transcript, ended]
  simp only [isPrinted]
  split_ifs <;> rfl

/-- A program whose run fails prints nothing. -/
theorem stdout_transcript_of_failed
    {fault : Fault}
    (failed : (arguments.run disk).journal.result = .error fault) :
    (transcript arguments (arguments.run disk)).stdout = [] := by
  rw [transcript, failed]
  simp only
  split_ifs <;> rfl

/-- The arguments without those that only say what is shown. -/
def Arguments.unshown
    (arguments : Arguments) :
    Arguments :=
  { arguments with print := false, verbose := false }

/-- A switch that only shows changes nothing but what is shown. -/
theorem Arguments.unshown_showing
    {switch : Switch}
    (shows : switch.Shows)
    (arguments : Arguments) :
    (arguments.showing switch).unshown = arguments.unshown := by
  rcases shows with rfl | rfl <;> rfl

/-- Two programs that end in the same way and leave the same on the disk. -/
structure Transcript.LeavesSame
    (transcript other : Transcript) :
    Prop where
  ending : transcript.ending = other.ending
  disk : transcript.disk = other.disk

variable
  {release : Release}
  {commandLine otherLine : List Text}

/-- A command line that is understood is run. -/
theorem program_of_read
    (isRead : release.read commandLine = .ok arguments) :
    release.program disk commandLine = transcript arguments (arguments.run disk) := by
  rw [Release.program, isRead]

/-- Programs that differ in what they show leave the same on the disk and end in the same way. -/
theorem leavesSame_of_unshown
    (isRead : release.read commandLine = .ok arguments)
    (otherIsRead : release.read otherLine = .ok others)
    (same : arguments.unshown = others.unshown) :
    (release.program disk commandLine).LeavesSame (release.program disk otherLine) ∧
      (arguments.print = others.print →
        (release.program disk commandLine).stdout = (release.program disk otherLine).stdout) := by
  have sameRun : arguments.run disk = others.run disk := by
    change arguments.unshown.run disk = others.unshown.run disk
    rw [same]
  have samePrinted (tally : Tally) : arguments.printed tally = others.printed tally := by
    change arguments.unshown.printed tally = others.unshown.printed tally
    rw [same]
  rw [program_of_read isRead, program_of_read otherIsRead]
  refine ⟨⟨?_, ?_⟩, fun samePrint => ?_⟩
  · rw [ending_transcript, ending_transcript, sameRun]
  · rw [disk_transcript, disk_transcript, sameRun]
  · cases ended : (others.run disk).journal.result with
    | error fault =>
        rw [stdout_transcript_of_failed ended,
          stdout_transcript_of_failed (sameRun ▸ ended)]
    | ok tally =>
        obtain ⟨report, isPrinted⟩ := Arguments.exists_printed_of_run ended
        rw [stdout_transcript ended isPrinted,
          stdout_transcript (sameRun ▸ ended) ((samePrinted tally).trans isPrinted), samePrint]

/--
What a program that succeeds has printed: nothing unless it is asked to, and else the content
of the report file that it is asked for on the command line.
-/
structure Transcript.PrintsWritten
    (transcript : Transcript)
    (arguments : Arguments)
    (plan : Plan) :
    Prop where
  silent : arguments.print = false → transcript.stdout = []
  document :
    arguments.print = true → arguments.json = true →
      ∃ path content,
        Report.documentPath plan.folder plan.outputName = .ok path ∧
          transcript.disk.HoldsText path content ∧
          transcript.stdout = content ++ ['\n']
  /-- The text, unless a document has been written to the same file. -/
  text :
    arguments.print = true → arguments.json = false →
      (plan.writeDocument = true → ∀ path,
        Report.documentPath plan.folder plan.outputName = .ok path →
          transcript.disk.place? path ≠
            transcript.disk.place? (Report.textPath plan.folder plan.outputName)) →
      ∃ content,
        transcript.disk.HoldsText (Report.textPath plan.folder plan.outputName) content ∧
          transcript.stdout = content ++ ['\n']

/-- A program that succeeds has printed what it has written. -/
theorem exists_printsWritten
    (isRead : release.read commandLine = .ok arguments)
    (succeeded : (release.program disk commandLine).ending = .exit 0) :
    ∃ plan,
      arguments.Plans disk plan ∧
        (release.program disk commandLine).PrintsWritten arguments plan := by
  rw [program_of_read isRead] at succeeded ⊢
  rw [ending_transcript] at succeeded
  cases ended : (arguments.run disk).journal.result with
  | error fault =>
      rw [ended, Ending.ofResult] at succeeded
      split_ifs at succeeded
      cases succeeded
  | ok tally =>
      obtain ⟨settings, survey, loaded, surveyed, ends⟩ := Arguments.exists_survey_of_run ended
      obtain ⟨_, _, _, checked, _, _⟩ := Request.survey_eq_ok_iff.mp surveyed
      have isPrinted {report : Text} (isReport : arguments.printed tally = .ok report) :=
        stdout_transcript ended isReport
      refine ⟨survey.plan, ⟨settings, loaded, checked⟩, ?_, ?_, ?_⟩
      · intro silent
        obtain ⟨report, isReport⟩ := Arguments.exists_printed_of_run ended
        rw [isPrinted isReport, silent]
        rfl
      · intro prints json
        obtain ⟨path, content, located, isContent, holds⟩ :=
          ends.holdsDocument surveyed (Arguments.writeDocument_of_json json surveyed)
        have isReport : arguments.printed tally = .ok content := by
          simp [Arguments.printed, json, isContent, Except.mapError]
        rw [isPrinted isReport, disk_transcript, prints]
        exact ⟨path, content, located, holds, rfl⟩
      · intro prints noJson isApart
        have isReport : arguments.printed tally = .ok (Report.text tally) := by
          simp [Arguments.printed, noJson, Report.writtenText, ends.isWritable, Except.mapError]
        rw [disk_transcript] at isApart ⊢
        rw [isPrinted isReport, prints]
        exact ⟨Report.text tally, ends.holdsText_of_apart surveyed isApart, rfl⟩

end Transcripts

/-- A switch that only shows can be taken out of a command line, and in some places put in. -/
theorem read_showing
    {release : Release}
    {switch : Switch}
    {spelling : Text}
    {before after : List Text}
    (shows : switch.Shows)
    (isSpelling : spelling ∈ switch.spellings)
    (noDivider : Token.dividerText ∉ before) :
    (∀ arguments : Arguments,
      release.read (before ++ spelling :: after) = .ok arguments →
        ∃ others,
          release.read (before ++ after) = .ok others ∧ arguments = others.showing switch) ∧
      ∀ others : Arguments,
        release.read (before ++ after) = .ok others →
        (before = [countName] ∨ ∀ argument, after.head? = some argument → IsSwitch argument) →
          release.read (before ++ spelling :: after) = .ok (others.showing switch) := by
  simp only [Release.read_eq_ok_iff]
  constructor
  · rintro _ ⟨documented, isRead, rfl⟩
    obtain ⟨others, otherIsRead, rfl⟩ := read_without shows isSpelling noDivider isRead
    exact ⟨_, ⟨others, otherIsRead, rfl⟩, release.keptOf_showing shows others⟩
  · rintro _ ⟨others, isRead, rfl⟩ place
    refine ⟨others.showing switch, ?_, release.keptOf_showing shows others⟩
    rcases place with rfl | isNext
    · exact read_showFirst shows isSpelling isRead
    · exact read_showBefore shows isSpelling noDivider isNext isRead

/--
What a program that succeeds prints is what it has written.  Command lines that differ only
in what is to be shown end in the same way, leave the same on the disk, and print the same if
both or neither are to print.  A switch that only shows can be taken out of a command line,
and put in right after the name of the command, before another switch or at the end.
-/
theorem program_printsWritten
    (release : Release) :
    (∀ (disk : Disk) (commandLine : List Text) (arguments : Arguments),
      release.read commandLine = .ok arguments →
      (release.program disk commandLine).ending = .exit 0 →
        ∃ plan,
          arguments.Plans disk plan ∧
            (release.program disk commandLine).PrintsWritten arguments plan) ∧
      (∀ (disk : Disk) (commandLine otherLine : List Text) (arguments others : Arguments),
        release.read commandLine = .ok arguments →
        release.read otherLine = .ok others →
        arguments.unshown = others.unshown →
          (release.program disk commandLine).LeavesSame (release.program disk otherLine) ∧
            (arguments.print = others.print →
              (release.program disk commandLine).stdout =
                (release.program disk otherLine).stdout)) ∧
      ∀ (switch : Switch) (spelling : Text) (before after : List Text),
        switch.Shows →
        spelling ∈ switch.spellings →
        Token.dividerText ∉ before →
          (∀ (disk : Disk) (arguments : Arguments),
            release.read (before ++ spelling :: after) = .ok arguments →
              (∃ others,
                release.read (before ++ after) = .ok others ∧
                  arguments = others.showing switch) ∧
                (release.program disk (before ++ spelling :: after)).LeavesSame
                  (release.program disk (before ++ after)) ∧
                (switch = .verbose →
                  (release.program disk (before ++ spelling :: after)).stdout =
                    (release.program disk (before ++ after)).stdout)) ∧
          ∀ others : Arguments,
            release.read (before ++ after) = .ok others →
            (before = [countName] ∨
              ∀ argument, after.head? = some argument → IsSwitch argument) →
              release.read (before ++ spelling :: after) = .ok (others.showing switch) := by
  refine ⟨fun _ _ _ => exists_printsWritten, fun _ _ _ _ _ => leavesSame_of_unshown, ?_⟩
  intro switch spelling before after shows isSpelling noDivider
  obtain ⟨takenOut, putIn⟩ := @read_showing release _ _ before after shows isSpelling noDivider
  refine ⟨fun disk arguments isRead => ?_, putIn⟩
  obtain ⟨others, otherIsRead, rfl⟩ := takenOut arguments isRead
  obtain ⟨leavesSame, sameStdout⟩ :=
    @leavesSame_of_unshown _ _ disk _ _ _ isRead otherIsRead (others.unshown_showing shows)
  refine ⟨⟨others, otherIsRead, rfl⟩, leavesSame, ?_⟩
  rintro rfl
  exact sameStdout rfl

/-- A command line for one file that prints the report. -/
def printingLine : List Text :=
  ["count", "a.m", "--print"].map String.toList

/-- The command line that tells more of the run besides. -/
def tellingLine : List Text :=
  ["count", "a.m", "--verbose", "--print"].map String.toList

/-- What the command line stands for. -/
def printingArguments : Arguments where
  paths := ["a.m".toList]
  fileTypes := none
  ignoreFiles := none
  excludeDirs := none
  saveDir := none
  config := none
  json := false
  print := true
  verbose := false

/-- The text report is printed as it is on the disk, also if more is told of the run. -/
theorem program_printsWritten_singleFileDisk :
    (∃ content,
      (program Request.singleFileDisk printingLine).disk.HoldsText
          (.ofText "/lineCount.txt".toList) content ∧
        (program Request.singleFileDisk printingLine).stdout = content ++ ['\n']) ∧
      (program Request.singleFileDisk tellingLine).stdout =
        (program Request.singleFileDisk printingLine).stdout := by
  obtain ⟨printsWritten, -, putInOrTakenOut⟩ := program_printsWritten startRelease
  have isRead : startRelease.read printingLine = .ok printingArguments := by
    decide
  constructor
  · have succeeded : (program Request.singleFileDisk printingLine).ending = .exit 0 := by
      decide +kernel
    obtain ⟨plan, ⟨settings, loaded, checked⟩, written⟩ := printsWritten _ _ _ isRead succeeded
    cases loaded
    have plans := Settings.plans_of_check checked
    have folder : plan.folder = ⟨.root, []⟩ := (Except.ok.inj plans.folder).symm
    have outputName : plan.outputName = "lineCount.txt".toList :=
      (Value.string.inj plans.outputName).symm
    have single : plan.writeDocument = false := (Value.bool.inj plans.writeJson).symm
    have path : Report.textPath plan.folder plan.outputName = .ofText "/lineCount.txt".toList := by
      rw [folder, outputName]
      decide
    rw [← path]
    exact written.text rfl rfl fun double => by cases single.symm.trans double
  · obtain ⟨takenOut, putIn⟩ := putInOrTakenOut .verbose "--verbose".toList
      (["count", "a.m"].map String.toList) ["--print".toList] (.inr rfl) (by decide) (by decide)
    have isNext (argument : Text) (isFirst : ["--print".toList].head? = some argument) :
        IsSwitch argument := by
      cases isFirst
      exact ⟨.print, "--print".toList, none, Token.ofArgument_spelling (by decide)⟩
    exact (takenOut Request.singleFileDisk _ (putIn _ isRead (.inr isNext))).2.2 rfl

end LineTally.CommandLine
