import LineTally.Proofs.Charset.RoundTrip
import LineTally.Proofs.Report.Spelled
import LineTally.Proofs.Run.Journal
import LineTally.Proofs.Settings.Check
import LineTally.Run.Spelled

namespace LineTally

/-!
# Runs with any names

A run with names that are texts is what it was without the others: its steps make the same
notes and have the same results.  A name that is no text comes into the survey of a run as
it is, with a record without lines.
-/

/-- A string that leads nowhere is no text. -/
theorem LostName.text?_eq_none
    (name : LostName) :
    name.spelling.text? = none := by
  obtain ⟨spelling, isLost⟩ := name
  cases isText : spelling.text? with
  | none =>
      rfl
  | some text =>
      rw [Spelling.text?_eq_some_iff.mp isText, Spelling.isLost,
        Spelling.diskBytes?_ofText] at isLost
      simp only [Charset.decode_utf8_strict_iff.mpr rfl] at isLost
      cases isLost

namespace SpelledJournal

/-- A journal with its value turned into another goes on as the journal itself. -/
theorem ofJournal_bind
    {α β γ δ : Type}
    {first : α → γ}
    {last : β → δ}
    {journal : Journal α}
    {next : α → Journal β}
    {turned : γ → SpelledJournal δ}
    (same : ∀ value, turned (first value) = ofJournal last (next value)) :
    (ofJournal first journal).andThen turned = ofJournal last (journal >>= next) := by
  obtain ⟨notes, fault | value⟩ := journal
  · rfl
  · simp only [Journal.ok_bind, ofJournal, andThen, Except.map, same, List.map_append]

/-- Two steps succeed exactly if the first one does and the second one after it. -/
theorem result_andThen_eq_ok_iff
    {α β : Type}
    {journal : SpelledJournal α}
    {next : α → SpelledJournal β}
    {result : β} :
    (journal.andThen next).result = .ok result ↔
      ∃ value, journal.result = .ok value ∧ (next value).result = .ok result := by
  obtain ⟨notes, fault | value⟩ := journal <;> simp [andThen]

end SpelledJournal

/-- An outcome as that of a run with any names has the same disk. -/
@[simp]
theorem SpelledOutcome.disk_ofOutcome
    (outcome : Outcome Tally) :
    (SpelledOutcome.ofOutcome outcome).disk = outcome.disk :=
  rfl

/-- The names of files that are known by texts. -/
def NamedFile.ofTexts
    (names : List Text) :
    List NamedFile :=
  names.map fun name => .known (.ofText name)

/-- An input of texts and paths, as one whose files may have any names. -/
def NamedInput.ofInput :
    Input → NamedInput
  | .single reference => .single (.known reference)
  | .listed references => .listed (references.map .known)

/-- A survey of texts, as one whose files may have any names. -/
def SpelledSurvey.ofSurvey
    (survey : Request.Survey) :
    SpelledSurvey :=
  ⟨survey.plan, survey.tally.map .ofRecord⟩

namespace NamedFile

variable
  {disk : Disk}

/-- The files of an input of texts and paths are known by texts. -/
theorem gather_ofInput
    (extensions excluded : List Text)
    (input : Input) :
    gather disk extensions excluded (.ofInput input) =
      (Selection.gather disk extensions excluded input).map ofTexts := by
  cases input with
  | single reference =>
      rfl
  | listed references =>
      simp only [NamedInput.ofInput, gather, Selection.gather, Except.map, ofTexts, List.map_map]
      rfl

/-- What is kept of files known by texts is what is kept of these texts. -/
theorem dropIgnored_ofTexts
    (ignored names : List Text) :
    dropIgnored ignored (ofTexts names) =
      ofTexts ((Selection.dropIgnored ignored (names.map .ofText)).map FileRef.toText) := by
  rw [dropIgnored, Selection.dropIgnored]
  split
  · simp only [ofTexts, List.map_map]
    rfl
  · simp only [ofTexts, List.filter_map, List.map_map]
    rfl

/-- Files known by texts are collected as these texts. -/
theorem collect_ofInput
    (extensions ignored excluded : List Text)
    (input : Input) :
    collect disk extensions ignored excluded (.ofInput input) =
      .ofJournal ofTexts (Selection.collect disk extensions ignored excluded input) := by
  rw [collect, Selection.collect, gather_ofInput]
  cases Selection.gather disk extensions excluded input with
  | error fault =>
      rfl
  | ok found =>
      simp only [Except.map, dropIgnored_ofTexts]
      simp only [ofTexts, List.length_map]
      rfl

/-- Files known by texts have the records of these texts. -/
theorem countAll_ofTexts
    (charset : Text)
    (names : List Text) :
    countAll disk charset (ofTexts names) =
      .ofJournal (List.map .ofRecord)
        (Counting.countFiles disk charset (names.map .ofText)) := by
  induction names with
  | nil =>
      rfl
  | cons name rest inductionHypothesis =>
      rw [ofTexts, List.map_cons, countAll, ← ofTexts, inductionHypothesis, List.map_cons,
        Counting.countFiles, count]
      apply SpelledJournal.ofJournal_bind
      intro record
      apply SpelledJournal.ofJournal_bind
      intro records
      rfl

/-- A name that is no text has a record without lines, under this name. -/
theorem record_of_lost
    {charset : Text}
    {files : List NamedFile}
    {tally : SpelledTally}
    (counted : (countAll disk charset files).result = .ok tally)
    {name : LostName}
    (among : .lost name ∈ files) :
    ⟨name.spelling, .zero⟩ ∈ tally := by
  induction files generalizing tally with
  | nil =>
      cases among
  | cons file rest inductionHypothesis =>
      obtain ⟨record, first, counted⟩ := SpelledJournal.result_andThen_eq_ok_iff.mp counted
      obtain ⟨records, others, made⟩ := SpelledJournal.result_andThen_eq_ok_iff.mp counted
      cases made
      rcases List.mem_cons.mp among with rfl | inRest
      · cases first
        exact List.mem_cons_self
      · exact List.mem_cons_of_mem _ (inductionHypothesis others inRest)

end NamedFile

namespace SpelledSurvey

/-- The reports of a survey of texts are those of the survey. -/
theorem report_ofSurvey
    (survey : Request.Survey)
    (disk : Disk) :
    (ofSurvey survey).report disk = .ofOutcome (survey.report disk) := by
  obtain ⟨plan, tally⟩ := survey
  simp only [report, ofSurvey, Report.isWritable_unnamed_map_ofRecord,
    Report.spelledText_map_ofRecord, Report.writeSpelled_ofText, SpelledTally.named_map_ofRecord]
  rw [Request.Survey.report, Outcome.afterWriting, Report.writeText, Report.writtenText]
  cases Report.isWritable tally with
  | false =>
      rfl
  | true =>
      simp only [if_true, Except.mapError, Journal.ofExcept_ok, pure_bind]
      rw [Report.write]
      cases disk.write (Report.textPath plan.folder plan.outputName)
          (Utf8.encode (Report.text tally)) with
      | ok later => rfl
      | error fault => cases fault <;> rfl

/-- How the reports of a survey with any names can turn out. -/
inductive Ends
    (survey : SpelledSurvey)
    (disk : Disk) :
    SpelledOutcome → Prop where
  /-- As those of a survey of texts. -/
  | ofTexts
      {texts : Request.Survey}
      (same : survey = ofSurvey texts) :
      Ends survey disk (.ofOutcome (texts.report disk))
  /-- Some name is no text, but nothing has been written either. -/
  | unwritten
      {record : SpelledRecord}
      {fault : Fault}
      (among : record ∈ survey.tally)
      (noText : record.path.text? = none) :
      Ends survey disk ⟨disk, [], .error (.plain fault)⟩
  /-- Some name is no text, and the file of the text report has been opened already. -/
  | emptied
      {record : SpelledRecord}
      {later : Disk}
      {reason : EncodeFault}
      (among : record ∈ survey.tally)
      (noText : record.path.text? = none)
      (writable : Report.isWritable survey.tally.unnamed = true)
      (opened :
        disk.write (Report.textPath survey.plan.folder survey.plan.outputName) [] = .ok later) :
      Ends survey disk ⟨later, [], .error (.encode reason)⟩

/-- The reports of a survey with any names turn out in one of these ways. -/
theorem ends_report
    (survey : SpelledSurvey)
    (disk : Disk) :
    survey.Ends disk (survey.report disk) := by
  by_cases allTexts : ∀ record ∈ survey.tally, record.path.text? ≠ none
  · have same : survey = ofSurvey ⟨survey.plan, survey.tally.named⟩ := by
      rw [ofSurvey, ← SpelledTally.eq_map_ofRecord allTexts]
    have ends : survey.Ends disk (.ofOutcome (Request.Survey.report _ disk)) := .ofTexts same
    rwa [← report_ofSurvey, ← same] at ends
  · push Not at allTexts
    obtain ⟨record, among, noText⟩ := allTexts
    obtain ⟨reason, failed⟩ := Spelling.exists_encodeFrom_eq_error 0
      (Report.text?_spelledText_of_mem among noText)
    rw [report]
    split
    next writable =>
      rcases Report.writeSpelled_of_encode_error failed with
        ⟨later, opened, isLate⟩ | ⟨fault, early⟩
      · rw [isLate]
        exact .emptied among noText writable opened
      · rw [early]
        exact .unwritten among noText
    next =>
      exact .unwritten among noText

end SpelledSurvey

namespace NamedRequest

variable
  {request : Request}
  {input : Input}
  {disk : Disk}

/-- A run for texts and paths is surveyed as the run without any other names. -/
theorem survey_ofInput
    (isInput : Request.checkInput request.input = .ok input) :
    NamedRequest.survey ⟨.ofInput input, request⟩ disk =
      .ofJournal .ofSurvey (request.survey disk) := by
  rw [survey, Request.survey, isInput, Journal.ofExcept_ok, pure_bind]
  apply SpelledJournal.ofJournal_bind
  intro plan
  rw [NamedFile.collect_ofInput]
  apply SpelledJournal.ofJournal_bind
  intro files
  rw [NamedFile.countAll_ofTexts]
  apply SpelledJournal.ofJournal_bind
  intro tally
  rfl

/-- A run for texts and paths is the run without any other names. -/
theorem run_ofInput
    (isInput : Request.checkInput request.input = .ok input) :
    NamedRequest.run ⟨.ofInput input, request⟩ disk = .ofOutcome (request.run disk) := by
  rw [run, survey_ofInput isInput, Request.run]
  cases surveyed : (request.survey disk).result with
  | error fault =>
      simp only [SpelledJournal.ofJournal, surveyed, Except.map]
      rfl
  | ok survey =>
      simp only [SpelledJournal.ofJournal, surveyed, Except.map, SpelledSurvey.report_ofSurvey,
        SpelledOutcome.ofOutcome, List.map_append]

/-- What a survey with any names is made of: a plan, the files and their records. -/
theorem parts_of_survey
    {request : NamedRequest}
    {survey : SpelledSurvey}
    (surveyed : (request.survey disk).result = .ok survey) :
    (request.besides.effectiveSettings.check disk).result = .ok survey.plan ∧
      ∃ files,
        (NamedFile.collect disk survey.plan.extensions survey.plan.ignored
            survey.plan.excluded request.input).result =
          .ok files ∧
        (NamedFile.countAll disk survey.plan.charset files).result = .ok survey.tally := by
  obtain ⟨plan, checked, surveyed⟩ := SpelledJournal.result_andThen_eq_ok_iff.mp surveyed
  obtain ⟨files, collected, surveyed⟩ := SpelledJournal.result_andThen_eq_ok_iff.mp surveyed
  obtain ⟨tally, counted, made⟩ := SpelledJournal.result_andThen_eq_ok_iff.mp surveyed
  cases made
  refine ⟨?_, files, collected, counted⟩
  simpa only [SpelledJournal.ofJournal, Except.map_id, id_eq] using checked

/-- The plan of a survey with any names follows from the settings that the request comes to. -/
theorem plans_of_survey
    {request : NamedRequest}
    {survey : SpelledSurvey}
    (surveyed : (request.survey disk).result = .ok survey) :
    request.besides.effectiveSettings.Plans disk survey.plan :=
  Settings.plans_of_check (parts_of_survey surveyed).1

end NamedRequest

end LineTally
