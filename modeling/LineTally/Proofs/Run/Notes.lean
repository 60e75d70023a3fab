import LineTally.Proofs.Run.CountFile
import LineTally.Proofs.Run.Reporting

namespace LineTally

/-!
# Where the notes of a run come from

Of the parts of a run only the counting makes notes on its own channel.  A note there
that a file was not found is made for a path that leads to no file, and for every such
path that the disk does not refuse.
-/

namespace Counting

/-- The note that a file was not found tells the name of the file. -/
theorem notFound_inj
    {name other : Text} :
    notFound name = notFound other ↔ name = other := by
  simp [notFound]

section File

variable
  {disk : Disk}
  {charset name : Text}
  {reference : FileRef}

/-- That a file was not found is noted only under its name, and if there is none. -/
theorem noBody_of_notFound
    (noted : notFound name ∈ (countFile disk charset reference).notes) :
    reference.toText = name ∧ disk.body? (pathOf reference) = none ∧
      ¬ disk.RefusesPath (pathOf reference) := by
  by_cases refused : disk.RefusesPath (pathOf reference)
  · rw [countFile_of_refusesPath refused] at noted
    cases noted
  cases found : disk.body? (pathOf reference) with
  | none =>
      rw [countFile_of_noBody refused found, List.mem_singleton, notFound_inj] at noted
      exact ⟨noted.symm, rfl, refused⟩
  | some body =>
      rw [countFile_of_body found, Journal.mem_notes_bind] at noted
      rcases noted with reading | ⟨read, _, after⟩
      · cases body with
        | refused error =>
            rw [Journal.attempt, readText_of_refused found] at reading
            cases reading
        | bytes content =>
            rw [Journal.attempt,
              readText_of_content (Disk.content?_eq_some_iff.mpr found)] at reading
            split_ifs at reading
            · cases List.mem_singleton.mp reading
            · cases reading
      · cases read with
        | ok text =>
            cases List.mem_singleton.mp after
        | error fault =>
            simp only at after
            split_ifs at after
            · exact absurd (congrArg Note.text (List.mem_singleton.mp after))
                (by simp [notFound, notOpened])
            · cases after

end File

section Batch

variable
  {disk : Disk}
  {charset : Text}
  {references : List FileRef}

/-- The notes of a batch are those of its files. -/
theorem exists_mem_of_mem_notes_countFiles
    {note : Note}
    (noted : note ∈ (countFiles disk charset references).notes) :
    ∃ reference ∈ references, note ∈ (countFile disk charset reference).notes := by
  induction references with
  | nil =>
      cases noted
  | cons reference rest inductionHypothesis =>
      rw [countFiles, Journal.mem_notes_bind] at noted
      rcases noted with ofFirst | ⟨record, _, later⟩
      · exact ⟨reference, List.mem_cons_self, ofFirst⟩
      · rcases Journal.mem_notes_bind.mp later with ofRest | ⟨_, _, nothing⟩
        · obtain ⟨other, member, ofOther⟩ := inductionHypothesis ofRest
          exact ⟨other, List.mem_cons_of_mem _ member, ofOther⟩
        · cases nothing

end Batch

end Counting

namespace Report

variable
  {disk : Disk}
  {note : Note}

/-- The notes on a report are on the channel of reports. -/
theorem channel_of_mem_notes_write
    {path : Path}
    {content : Text}
    (noted : note ∈ (write disk path content).notes) :
    note.channel = .report := by
  rw [write] at noted
  split at noted
  · rw [List.mem_singleton.mp noted, created]
  · cases noted
  · cases noted

/-- So are the notes on the text report. -/
theorem channel_of_mem_notes_writeText
    {tally : Tally}
    {folder : Path}
    {name : Text}
    (noted : note ∈ (writeText disk tally folder name).notes) :
    note.channel = .report := by
  rcases Journal.mem_notes_bind.mp noted with nothing | ⟨content, _, written⟩
  · cases nothing
  · exact channel_of_mem_notes_write written

/-- So are the notes on the document. -/
theorem channel_of_mem_notes_writeDocument
    {tally : Tally}
    {folder : Path}
    {name : Text}
    (noted : note ∈ (writeDocument disk tally folder name).notes) :
    note.channel = .report := by
  rcases Journal.mem_notes_bind.mp noted with nothing | ⟨path, _, later⟩
  · cases nothing
  · rcases Journal.mem_notes_bind.mp later with nothing | ⟨content, _, written⟩
    · cases nothing
    · exact channel_of_mem_notes_write written

end Report

namespace Outcome

/-- The notes after a report are those on the report and those of what is done next. -/
theorem mem_notes_afterWriting
    {α : Type}
    {disk : Disk}
    {note : Note}
    {written : Journal Report.Written}
    {next : Disk → Outcome α}
    (noted : note ∈ (afterWriting disk written next).journal.notes) :
    note ∈ written.notes ∨ ∃ later, note ∈ (next later).journal.notes := by
  rw [afterWriting] at noted
  split at noted
  · exact (List.mem_append.mp noted).imp_right fun later => ⟨_, later⟩
  · exact .inl noted

end Outcome

namespace Request

variable
  {request : Request}
  {disk : Disk}
  {note : Note}

/-- The notes on the reports of a survey are on the channel of reports. -/
theorem Survey.channel_of_mem_notes_report
    {survey : Survey}
    (noted : note ∈ (survey.report disk).journal.notes) :
    note.channel = .report := by
  rw [Survey.report] at noted
  rcases Outcome.mem_notes_afterWriting noted with ofText | ⟨later, noted⟩
  · exact Report.channel_of_mem_notes_writeText ofText
  · rw [Survey.reportDocument] at noted
    split_ifs at noted
    · rcases Outcome.mem_notes_afterWriting noted with ofDocument | ⟨_, nothing⟩
      · exact Report.channel_of_mem_notes_writeDocument ofDocument
      · cases nothing
    · cases noted

/-- The notes of a check of settings are on the channel of settings. -/
theorem channel_of_mem_notes_check
    {settings : Settings}
    (noted : note ∈ (settings.check disk).notes) :
    note.channel = .settings := by
  rw [Settings.check] at noted
  split at noted
  · cases noted
  · obtain ⟨complaint, _, rfl⟩ := List.mem_map.mp noted
    rfl

/-- The note of a selection is on the channel of selections. -/
theorem channel_of_mem_notes_collect
    {extensions ignored excluded : List Text}
    {input : Input}
    (noted : note ∈ (Selection.collect disk extensions ignored excluded input).notes) :
    note.channel = .selection := by
  rcases Journal.mem_notes_bind.mp noted with nothing | ⟨found, _, later⟩
  · cases nothing
  · rcases Journal.mem_notes_bind.mp later with summary | ⟨_, _, nothing⟩
    · rw [List.mem_singleton.mp summary]
    · cases nothing

/-- A note on the channel of counting is one of the batch of files that is collected. -/
theorem mem_notes_survey_iff
    (onCounting : note.channel = .counting) :
    note ∈ (request.survey disk).notes ↔
      ∃ input plan files, checkInput request.input = .ok input ∧
        (request.effectiveSettings.check disk).result = .ok plan ∧
        (Selection.collect disk plan.extensions plan.ignored plan.excluded input).result =
          .ok files ∧
        note ∈ (Counting.countFiles disk plan.charset (files.map .ofText)).notes := by
  simp only [survey, Journal.mem_notes_bind]
  constructor
  · rintro (nothing | ⟨input, isInput, ofCheck | ⟨plan, checked, ofCollect |
      ⟨files, collected, ofBatch | ⟨tally, _, nothing⟩⟩⟩⟩)
    · cases nothing
    · cases onCounting.symm.trans (channel_of_mem_notes_check ofCheck)
    · cases onCounting.symm.trans (channel_of_mem_notes_collect ofCollect)
    · exact ⟨input, plan, files, isInput, checked, collected, ofBatch⟩
    · cases nothing
  · rintro ⟨input, plan, files, isInput, checked, collected, ofBatch⟩
    exact .inr ⟨input, isInput, .inr ⟨plan, checked, .inr ⟨files, collected, .inl ofBatch⟩⟩⟩

/-- So it is in a whole run. -/
theorem mem_notes_run_iff
    (onCounting : note.channel = .counting) :
    note ∈ (request.run disk).journal.notes ↔ note ∈ (request.survey disk).notes := by
  rw [run]
  split
  · rw [List.mem_append]
    refine or_iff_left ?_
    intro ofReport
    cases onCounting.symm.trans (Survey.channel_of_mem_notes_report ofReport)
  · rfl

end Request

end LineTally
