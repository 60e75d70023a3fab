import LineTally.Run.Basic
import LineTally.Run.Unchecked
import LineTally.Settings.Unchecked

namespace LineTally

/-!
# Runs by value

The run by values has no plan: its steps look at the values of the settings as they are,
after a check and before each use.
-/

namespace Report

/-- The path of a report whose name is given by a value. -/
def targetByValue
    (folder : Path)
    (name : Value) :
    Except KindFault Path :=
  match name.fileRef? with
  | some reference => .ok (folder.join reference.toPath)
  | none => .error (.notFileName name.shortKind)

/-- The disk with the text report of a tally, under a name that is given by a value. -/
def writeTextByValue
    (disk : Disk)
    (tally : Tally)
    (folder : Path)
    (name : Value) :
    Journal Written := do
  let path ← Journal.ofKind (targetByValue folder name)
  let content ← Journal.ofExcept ((writtenText tally).mapError .number)
  write disk path content

/-- The disk with the report document of a tally, under a name that is given by a value. -/
def writeDocumentByValue
    (disk : Disk)
    (tally : Tally)
    (folder : Path)
    (name : Value) :
    Journal Written := do
  let path ← Journal.ofKind (targetByValue folder name)
  match path.withSuffix? ".json".toList with
  | none => Journal.fail (.unnamed path.toText)
  | some path =>
      let content ← Journal.ofExcept ((documentText tally).mapError .number)
      write disk path content

end Report

namespace Settings

/-- Writes the reports of a tally where the values of settings say. -/
def reportByValues
    (settings : Settings)
    (disk : Disk)
    (tally : Tally) :
    Outcome Tally :=
  let done (disk : Disk) : Outcome Tally := ⟨disk, Journal.pure tally⟩
  match settings.saveFolder disk with
  | .error fault => ⟨disk, Journal.fail (.kind fault)⟩
  | .ok folder =>
      Outcome.afterWriting disk (Report.writeTextByValue disk tally folder settings.outputName)
        fun disk =>
          if settings.writeJson.isEmpty then
            done disk
          else
            Outcome.afterWriting disk
              (Report.writeDocumentByValue disk tally folder settings.outputName) done

end Settings

namespace Request

/-- The part of a run by values that only reads the disk. -/
def tallyByValues
    (request : Request)
    (disk : Disk) :
    Journal Tally := do
  let settings := request.effectiveSettings
  let _ ← Journal.ofExcept (checkInput request.input)
  settings.checkByValue disk
  let files ← Selection.collectByValue disk
    settings.fileTypes settings.ignoreFiles settings.excludeDirs request.input
  Counting.countValues disk settings.encoding files

/-- A whole run by values. -/
def runByValues
    (request : Request)
    (disk : Disk) :
    Outcome Tally :=
  let counted := request.tallyByValues disk
  match counted.result with
  | .ok tally =>
      let reported := request.effectiveSettings.reportByValues disk tally
      ⟨reported.disk, ⟨counted.notes ++ reported.journal.notes, reported.journal.result⟩⟩
  | .error fault => ⟨disk, ⟨counted.notes, .error fault⟩⟩

end Request

end LineTally
