import LineTally.Report.Spelled
import LineTally.Run.Basic

namespace LineTally

/-!
# Runs with names that are no texts

A caller may ask for files by any strings.  A string with halves of characters in it that
leads nowhere is counted as a file that is not there, and is ignored or not by its base name
like any other.  If it is not ignored, the run fails when it writes the text report.

Not covered are strings whose halves stand for the bytes of a text, since such a string leads
where this text leads, and those too long for a disk to look for.  The settings are texts.
-/

/--
Whether a string leads nowhere on every disk.  The names on a disk are texts, so none of them
has these bytes; and nothing in it is too long to be asked for.
-/
def Spelling.isLost
    (spelling : Spelling) :
    Bool :=
  match spelling.diskBytes? with
  | none => true
  | some bytes =>
      match Charset.utf8.decode .strict bytes with
      | .ok _ => false
      | .error _ =>
          bytes.length ≤ Disk.maxPathSize
            && (bytes.splitOn 0x2F).all fun name => name.length ≤ Disk.maxNameSize

/-- A string that leads nowhere on every disk. -/
structure LostName where
  spelling : Spelling
  isLost : spelling.isLost = true
  deriving DecidableEq

/-- A file as a caller asks for it: by a text or a path, or by a string that leads nowhere. -/
inductive NamedFile where
  | known (reference : FileRef)
  | lost (name : LostName)
  deriving DecidableEq

namespace NamedFile

/-- The string that a file is asked for by. -/
def spelling :
    NamedFile → Spelling
  | .known reference => .ofText reference.toText
  | .lost name => name.spelling

/-- Whether the base name of a file is ignored. -/
def isIgnored
    (ignored : List Text) :
    NamedFile → Bool
  | .known reference => Selection.isIgnored ignored reference
  | .lost name => ignored.any fun rule => Spelling.ofText rule = name.spelling.baseName

/-- The files whose base names are not ignored. -/
def dropIgnored
    (ignored : List Text)
    (files : List NamedFile) :
    List NamedFile :=
  if ignored.isEmpty then files else files.filter fun file => !file.isIgnored ignored

end NamedFile

/-- What a run is asked to count. -/
inductive NamedInput where
  /-- A folder with all that is below it, or a single file. -/
  | single (file : NamedFile)
  /-- Files one by one. -/
  | listed (files : List NamedFile)

/-- A note whose text may be any string. -/
structure SpelledNote where
  level : Level
  channel : Channel
  text : Spelling
  deriving Repr, DecidableEq

/-- A note as one whose text may be any string. -/
def SpelledNote.ofNote
    (note : Note) :
    SpelledNote :=
  ⟨note.level, note.channel, .ofText note.text⟩

/-- A journal whose notes may have any strings. -/
structure SpelledJournal (α : Type) where
  notes : List SpelledNote
  result : Except Fault α

namespace SpelledJournal

/-- A journal as one whose notes may have any strings, with its value turned into another. -/
def ofJournal
    {α β : Type}
    (turn : α → β)
    (journal : Journal α) :
    SpelledJournal β :=
  ⟨journal.notes.map .ofNote, journal.result.map turn⟩

/-- The journal of a step and, unless it fails, of the next one. -/
def andThen
    {α β : Type}
    (journal : SpelledJournal α)
    (next : α → SpelledJournal β) :
    SpelledJournal β :=
  match journal.result with
  | .ok value => ⟨journal.notes ++ (next value).notes, (next value).result⟩
  | .error fault => ⟨journal.notes, .error fault⟩

end SpelledJournal

namespace NamedFile

/-- The files of an input before any is ignored. -/
def gather
    (disk : Disk)
    (extensions excluded : List Text) :
    NamedInput → Except DiskFault (List NamedFile)
  | .single (.known reference) =>
      (Selection.gather disk extensions excluded (.single reference)).map
        (List.map fun name => .known (.ofText name))
  | .single (.lost name) => .ok [.lost name]
  | .listed files =>
      .ok (files.map fun file =>
        match file with
        | .known reference => .known (.ofText reference.toText)
        | .lost name => .lost name)

/-- The files of an input that are to be counted. -/
def collect
    (disk : Disk)
    (extensions ignored excluded : List Text)
    (input : NamedInput) :
    SpelledJournal (List NamedFile) :=
  match gather disk extensions excluded input with
  | .error fault => ⟨[], .error (.disk fault)⟩
  | .ok found =>
      let kept := dropIgnored ignored found
      let summary := Selection.summary kept.length found.length
      ⟨[.ofNote ⟨.info, .selection, summary⟩], .ok kept⟩

/-- The warning that a file is not there. -/
def notFound
    (name : Spelling) :
    SpelledNote :=
  ⟨.warning, .counting,
    .ofText "File \"".toList ++ name ++ .ofText "\" not found. Counts set to zero.".toList⟩

/-- The record of one file. -/
def count
    (disk : Disk)
    (charset : Text) :
    NamedFile → SpelledJournal SpelledRecord
  | .known reference => .ofJournal .ofRecord (Counting.countFile disk charset reference)
  | .lost name => ⟨[notFound name.spelling], .ok ⟨name.spelling, .zero⟩⟩

/-- The records of some files, in their order. -/
def countAll
    (disk : Disk)
    (charset : Text) :
    List NamedFile → SpelledJournal SpelledTally
  | [] => ⟨[], .ok []⟩
  | file :: rest =>
      (file.count disk charset).andThen fun record =>
        (countAll disk charset rest).andThen fun records =>
          ⟨[], .ok (record :: records)⟩

end NamedFile

/-- What a run with any names has found when it is about to write its reports. -/
structure SpelledSurvey where
  plan : Plan
  tally : SpelledTally

/-- What a run with any names leaves behind. -/
structure SpelledOutcome where
  disk : Disk
  notes : List SpelledNote
  result : Except Report.SpelledFault SpelledTally

/-- The outcome of a run as that of one with any names. -/
def SpelledOutcome.ofOutcome
    (outcome : Outcome Tally) :
    SpelledOutcome :=
  ⟨outcome.disk, outcome.journal.notes.map .ofNote,
    (outcome.journal.result.mapError .plain).map (List.map .ofRecord)⟩

namespace SpelledSurvey

/--
Writes the reports of a survey.  The text report comes first; once it is written, all names
are texts.
-/
def report
    (survey : SpelledSurvey)
    (disk : Disk) :
    SpelledOutcome :=
  let plan := survey.plan
  let path := Report.textPath plan.folder plan.outputName
  if Report.isWritable survey.tally.unnamed then
    match Report.writeSpelled disk path (Report.spelledText survey.tally) with
    | (later, some fault) => ⟨later, [], .error fault⟩
    | (later, none) =>
        let document := Request.Survey.reportDocument ⟨plan, survey.tally.named⟩ later
        .ofOutcome
          ⟨document.disk,
            ⟨Report.created path :: document.journal.notes, document.journal.result⟩⟩
  else
    ⟨disk, [], .error (.plain (.number .written))⟩

end SpelledSurvey

/-- What a run is asked for whose files are asked for by any strings. -/
structure NamedRequest where
  input : NamedInput
  /-- All that is asked for besides; its own input is not looked at. -/
  besides : Request

namespace NamedRequest

/-- The part of a run that only reads the disk. -/
def survey
    (request : NamedRequest)
    (disk : Disk) :
    SpelledJournal SpelledSurvey :=
  (SpelledJournal.ofJournal id (request.besides.effectiveSettings.check disk)).andThen
    fun plan =>
      (NamedFile.collect disk plan.extensions plan.ignored plan.excluded request.input).andThen
        fun files =>
          (NamedFile.countAll disk plan.charset files).andThen fun tally =>
            ⟨[], .ok ⟨plan, tally⟩⟩

/-- A whole run. -/
def run
    (request : NamedRequest)
    (disk : Disk) :
    SpelledOutcome :=
  let surveyed := request.survey disk
  match surveyed.result with
  | .ok survey =>
      let reported := survey.report disk
      ⟨reported.disk, surveyed.notes ++ reported.notes, reported.result⟩
  | .error fault => ⟨disk, surveyed.notes, .error (.plain fault)⟩

end NamedRequest

end LineTally
