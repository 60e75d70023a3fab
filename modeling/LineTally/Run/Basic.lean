import LineTally.Report.Files
import LineTally.Run.Counting
import LineTally.Run.Selection
import LineTally.Settings.Plan

namespace LineTally

/-!
# Runs

A run checks what it is asked for, collects and counts the files, and writes one
report or two.  All that can fail before the first report is written only reads
the disk.
-/

/-- What a run is asked for; a value that is absent leaves the choice to the settings. -/
structure Request where
  input : Value
  fileTypes : Value := .absent
  ignoreFiles : Value := .absent
  saveDir : Value := .absent
  settings : Settings := .default
  deriving Repr, BEq

namespace Request

/-- The input of a request, if its value is of a kind that is accepted. -/
def checkInput
    (value : Value) :
    Except Fault Input :=
  match Input.ofValue? value with
  | some input => .ok input
  | none => .error (.rejected .input)

/-- The settings of a request with its own values laid over them. -/
def effectiveSettings
    (request : Request) :
    Settings :=
  request.settings.merge
    [ (.fileTypes, Setting.fileTypes.held request.fileTypes),
      (.ignoreFiles, Setting.ignoreFiles.held request.ignoreFiles),
      (.saveDir, request.saveDir) ]

/-- What a run has found when it is about to write its reports. -/
structure Survey where
  plan : Plan
  tally : Tally
  deriving Repr, DecidableEq

/-- The part of a run that only reads the disk. -/
def survey
    (request : Request)
    (disk : Disk) :
    Journal Survey := do
  let input ← Journal.ofExcept (checkInput request.input)
  let plan ← request.effectiveSettings.check disk
  let files ← Selection.collect disk plan.extensions plan.ignored plan.excluded input
  let tally ← Counting.countFiles disk plan.charset (files.map .ofText)
  return ⟨plan, tally⟩

end Request

/-- What a run leaves behind: the disk, changed even if it fails late, and its journal. -/
structure Outcome (α : Type) where
  disk : Disk
  journal : Journal α

namespace Outcome

/-- The outcome of a part of a run that leaves the disk as it is. -/
def unchanged
    {α : Type}
    (disk : Disk)
    (journal : Journal α) :
    Outcome α :=
  ⟨disk, journal⟩

/-- The outcome of writing a report, and of what is done next with the disk. -/
def afterWriting
    {α : Type}
    (disk : Disk)
    (written : Journal Report.Written)
    (next : Disk → Outcome α) :
    Outcome α :=
  match written.result with
  | .ok report =>
      let following := next report.disk
      ⟨following.disk,
        ⟨written.notes ++ following.journal.notes, following.journal.result⟩⟩
  | .error fault => ⟨disk, ⟨written.notes, .error fault⟩⟩

end Outcome

namespace Request.Survey

/-- Writes the document of a survey if it is asked for. -/
def reportDocument
    (survey : Survey)
    (disk : Disk) :
    Outcome Tally :=
  let plan := survey.plan
  let done (disk : Disk) : Outcome Tally := ⟨disk, Journal.pure survey.tally⟩
  if plan.writeDocument then
    Outcome.afterWriting disk
      (Report.writeDocument disk survey.tally plan.folder plan.outputName) done
  else
    done disk

/-- Writes the reports of a survey. -/
def report
    (survey : Survey)
    (disk : Disk) :
    Outcome Tally :=
  let plan := survey.plan
  Outcome.afterWriting disk (Report.writeText disk survey.tally plan.folder plan.outputName)
    survey.reportDocument

end Request.Survey

namespace Request

/-- A whole run. -/
def run
    (request : Request)
    (disk : Disk) :
    Outcome Tally :=
  let surveyed := request.survey disk
  match surveyed.result with
  | .ok survey =>
      let reported := survey.report disk
      ⟨reported.disk, ⟨surveyed.notes ++ reported.journal.notes, reported.journal.result⟩⟩
  | .error fault => ⟨disk, ⟨surveyed.notes, .error fault⟩⟩

end Request

end LineTally
