import LineTally.Proofs.Run.ByValue

namespace LineTally

/-!
# Faults of kind

A fault of kind comes from doing something with a value that is not of the kind for it.  A
run only asks the disk and the charsets once its settings are checked, and leaves out stray
bytes when it reads, so none of its steps ends in such a fault.
-/

namespace Fault

/-- Whether a fault is one in the kind of a value that something is done with. -/
def isOfKind :
    Fault → Bool
  | .kind _ | .sample (.notNumber _) | .decode .policyForEncoding => true
  | _ => false

end Fault

/-- A step that does not fail for the kind of a value. -/
def Journal.KeepsKinds
    {α : Type}
    (journal : Journal α) :
    Prop :=
  ∀ fault, journal.result = .error fault → fault.isOfKind = false

namespace Journal

variable
  {α β : Type}

/-- Steps that keep to kinds do so one after the other. -/
theorem KeepsKinds.bind
    {journal : Journal α}
    {next : α → Journal β}
    (keeps : journal.KeepsKinds)
    (later : ∀ value, journal.result = .ok value → (next value).KeepsKinds) :
    (journal >>= next).KeepsKinds := by
  intro fault failed
  rw [result_bind] at failed
  cases ended : journal.result with
  | error other =>
      rw [ended] at failed
      cases failed
      exact keeps _ ended
  | ok value =>
      rw [ended] at failed
      exact later value ended fault failed

/-- An answer that fails with other faults keeps to kinds. -/
theorem keepsKinds_mapError
    {ε : Type}
    {ofFault : ε → Fault}
    (answer : Except ε α)
    (notOfKind : ∀ fault, answer = .error fault → (ofFault fault).isOfKind = false) :
    (ofExcept (answer.mapError ofFault)).KeepsKinds := by
  intro fault failed
  cases answer <;> cases failed
  exact notOfKind _ rfl

/-- An answer of the disk does not fail for a kind. -/
theorem keepsKinds_ofDisk
    (answer : Except DiskFault α) :
    (ofDisk answer).KeepsKinds :=
  keepsKinds_mapError answer fun _ _ => rfl

/-- A step that only has a value does not fail at all. -/
theorem keepsKinds_pure
    (value : α) :
    (Pure.pure value : Journal α).KeepsKinds := by
  intro fault failed
  cases failed

/-- A step that is only attempted keeps to kinds. -/
theorem keepsKinds_attempt
    (journal : Journal α) :
    journal.attempt.KeepsKinds := by
  intro fault failed
  cases failed

/-- A step that only makes a note does not fail at all. -/
theorem keepsKinds_note
    (level : Level)
    (channel : Channel)
    (text : Text) :
    (note level channel text).KeepsKinds := by
  intro fault failed
  cases failed

/-- A step that fails for another reason does not fail for a kind. -/
theorem keepsKinds_fail
    {fault : Fault}
    (notOfKind : fault.isOfKind = false) :
    (fail fault : Journal α).KeepsKinds := by
  rintro _ ⟨⟩
  exact notOfKind

end Journal

namespace Counting

variable
  {disk : Disk}
  {charset : Text}

/-- No charset that files are counted in fails for the sake of a policy for encoding. -/
theorem decodeNamed_ne_policyForEncoding
    {content : List UInt8}
    {fault : DecodeFault}
    (failed : Charset.decodeNamed charset strayPolicy content = .error fault) :
    fault ≠ .policyForEncoding := by
  -- A name with a NUL fails by itself, before any policy is looked at.
  by_cases nul : '\x00' ∈ charset
  · have refused : Charset.decodeNamed charset strayPolicy content = .error .nulInName := by
      have isAny : charset.any (· = '\x00') = true :=
        List.any_eq_true.mpr ⟨'\x00', nul, by decide⟩
      rw [Charset.decodeNamed, isAny]
      rfl
    cases failed.symm.trans refused
    simp
  · rw [decodeNamed_strayPolicy nul] at failed
    cases isText : Charset.ofTextName charset with
    | ok found =>
        rw [isText] at failed
        exact Charset.decode_ignore_ne_policyForEncoding failed
    | error other =>
        rw [isText] at failed
        cases failed
        rw [Charset.ofTextName] at isText
        split at isText
        next => cases isText
        next =>
          split at isText <;> cases isText <;> simp

/-- The text of the bytes of a counted file is told without regard to kinds. -/
theorem keepsKinds_textOf
    (path : Text)
    (content : List UInt8) :
    (Journal.ofExcept (textOf charset strayPolicy path content)).KeepsKinds := by
  intro fault failed
  rw [Journal.ofExcept, textOf] at failed
  cases decoded : Charset.decodeNamed charset strayPolicy content with
  | ok text =>
      rw [decoded] at failed
      cases failed
  | error other =>
      rw [decoded] at failed
      simp only at failed
      split_ifs at failed with unreadable
      · cases failed
        rfl
      · cases failed
        have notPolicy := decodeNamed_ne_policyForEncoding decoded
        cases other <;> first | rfl | exact (notPolicy rfl).elim

/-- Looking for the bytes of a text file does not fail for a kind. -/
theorem keepsKinds_textBytes?
    (path : Path) :
    (textBytes? disk path).KeepsKinds := by
  rw [textBytes?]
  refine (Journal.keepsKinds_ofDisk _).bind fun isFile _ => ?_
  cases isFile with
  | false =>
      exact Journal.keepsKinds_fail rfl
  | true =>
      refine (Journal.keepsKinds_ofDisk _).bind fun binary _ => ?_
      cases binary with
      | true =>
          exact (Journal.keepsKinds_note _ _ _).bind fun _ _ => Journal.keepsKinds_pure _
      | false =>
          cases disk.read path with
          | ok content => exact Journal.keepsKinds_pure _
          | error fault => cases fault <;> exact Journal.keepsKinds_fail rfl

/-- Neither does reading a file that is counted. -/
theorem keepsKinds_readText
    (path : Path) :
    (readText disk charset strayPolicy path).KeepsKinds := by
  rw [readText]
  refine (keepsKinds_textBytes? path).bind fun content? _ => ?_
  cases content? with
  | none => exact Journal.keepsKinds_pure _
  | some content => exact keepsKinds_textOf _ content

/-- A file is counted without regard to kinds. -/
theorem keepsKinds_countFile
    (reference : FileRef) :
    (countFile disk charset reference).KeepsKinds := by
  rw [countFile, countFileBy]
  refine (Journal.keepsKinds_ofDisk _).bind fun isFile _ => ?_
  cases isFile with
  | false =>
      exact (Journal.keepsKinds_note _ _ _).bind fun _ _ => Journal.keepsKinds_pure _
  | true =>
      refine (Journal.keepsKinds_attempt _).bind fun attempted isAttempted => ?_
      cases isAttempted
      cases ended : (readText disk charset strayPolicy (.ofText reference.toText)).result with
      | ok content =>
          exact (Journal.keepsKinds_note _ _ _).bind fun _ _ => Journal.keepsKinds_pure _
      | error fault =>
          cases isOwn : fault.isOwn with
          | true =>
              simp only [isOwn, if_true]
              exact (Journal.keepsKinds_note _ _ _).bind fun _ _ => Journal.keepsKinds_pure _
          | false =>
              -- This fault is passed on as it is, and reading has kept to kinds.
              simp only [isOwn, Bool.false_eq_true, if_false]
              exact Journal.keepsKinds_fail (keepsKinds_readText _ fault ended)

/-- Counting a batch does not fail for a kind, as counting a file does not. -/
theorem keepsKinds_countFiles
    (references : List FileRef) :
    (countFiles disk charset references).KeepsKinds := by
  induction references with
  | nil =>
      exact Journal.keepsKinds_pure _
  | cons reference rest inductionHypothesis =>
      rw [countFiles]
      exact (keepsKinds_countFile reference).bind fun _ _ =>
        inductionHypothesis.bind fun _ _ => Journal.keepsKinds_pure _

end Counting

namespace Settings

variable
  {settings : Settings}
  {disk : Disk}

/-- Looking for the folder of the reports does not fail for a kind. -/
theorem keepsKinds_folderAnswer :
    (Journal.ofExcept (settings.folderAnswer disk)).KeepsKinds := by
  rw [folderAnswer]
  cases settings.saveFolder disk with
  | error fault => exact Journal.keepsKinds_pure _
  | ok folder => exact Journal.keepsKinds_ofDisk _

/-- Looking up the charset does not fail for a kind. -/
theorem keepsKinds_charsetAnswer :
    (Journal.ofExcept settings.charsetAnswer).KeepsKinds := by
  rw [charsetAnswer]
  cases settings.encoding.text? with
  | none => exact Journal.keepsKinds_pure _
  | some name =>
      refine Journal.keepsKinds_mapError _ fun fault failed => ?_
      rw [isKnownCharset] at failed
      split_ifs at failed
      cases failed
      rfl

/-- Settings are checked without regard to kinds. -/
theorem keepsKinds_check :
    (settings.check disk).KeepsKinds := by
  have found : (Journal.ofExcept (settings.facts disk)).KeepsKinds := by
    have apart : Journal.ofExcept (settings.facts disk) = do
        let folderExists ← Journal.ofExcept (settings.folderAnswer disk)
        let charsetKnown ← Journal.ofExcept settings.charsetAnswer
        return ⟨folderExists, charsetKnown⟩ := by
      rw [facts_eq]
      cases settings.folderAnswer disk with
      | error fault => rfl
      | ok folderExists => cases settings.charsetAnswer <;> rfl
    rw [apart]
    exact keepsKinds_folderAnswer.bind fun _ _ =>
      keepsKinds_charsetAnswer.bind fun _ _ => Journal.keepsKinds_pure _
  intro fault failed
  rw [check] at failed
  cases answered : settings.facts disk with
  | error other =>
      rw [answered] at failed found
      cases failed
      exact found _ rfl
  | ok facts =>
      simp only [answered] at failed
      cases planned : settings.plan disk facts <;> rw [planned] at failed <;> cases failed
      rfl

end Settings

/-- Collecting the files of an input does not fail for a kind. -/
theorem Selection.keepsKinds_collect
    {disk : Disk}
    {extensions ignored excluded : List Text}
    (input : Input) :
    (collect disk extensions ignored excluded input).KeepsKinds := by
  rw [collect]
  exact (Journal.keepsKinds_ofDisk _).bind fun _ _ =>
    (Journal.keepsKinds_note _ _ _).bind fun _ _ => Journal.keepsKinds_pure _

namespace Report

variable
  {disk : Disk}
  {tally : Tally}
  {folder : Path}
  {name : Text}

/-- Writing a file does not fail for a kind. -/
theorem keepsKinds_write
    (path : Path)
    (content : Text) :
    (write disk path content).KeepsKinds := by
  rw [write]
  cases disk.write path (Utf8.encode content) with
  | ok later =>
      intro reason failed
      cases failed
  | error fault =>
      cases fault <;> exact Journal.keepsKinds_fail rfl

/-- Neither does writing the text report. -/
theorem keepsKinds_writeText :
    (writeText disk tally folder name).KeepsKinds := by
  rw [writeText]
  exact (Journal.keepsKinds_mapError _ fun _ _ => rfl).bind fun _ _ => keepsKinds_write _ _

/-- Neither does writing the document. -/
theorem keepsKinds_writeDocument :
    (writeDocument disk tally folder name).KeepsKinds := by
  have located : (Journal.ofExcept (documentPath folder name)).KeepsKinds := by
    rw [documentPath]
    cases (textPath folder name).withSuffix? ".json".toList with
    | none => exact Journal.keepsKinds_fail rfl
    | some path => exact Journal.keepsKinds_pure _
  rw [writeDocument]
  exact located.bind fun _ _ =>
    (Journal.keepsKinds_mapError _ fun _ _ => rfl).bind fun _ _ => keepsKinds_write _ _

end Report

/-- What is done with the disk after a report is written keeps to kinds if both parts do. -/
theorem Outcome.keepsKinds_afterWriting
    {α : Type}
    {disk : Disk}
    {written : Journal Report.Written}
    {next : Disk → Outcome α}
    (keeps : written.KeepsKinds)
    (later : ∀ disk, (next disk).journal.KeepsKinds) :
    (afterWriting disk written next).journal.KeepsKinds := by
  intro fault failed
  rw [afterWriting] at failed
  cases ended : written.result with
  | ok report =>
      rw [ended] at failed
      exact later report.disk fault failed
  | error other =>
      rw [ended] at failed
      cases failed
      exact keeps fault ended

namespace Request

/-- The reports of a survey do not fail for a kind. -/
theorem Survey.keepsKinds_report
    (survey : Survey)
    (disk : Disk) :
    (survey.report disk).journal.KeepsKinds := by
  rw [report]
  refine Outcome.keepsKinds_afterWriting Report.keepsKinds_writeText fun disk => ?_
  rw [reportDocument]
  split
  · exact Outcome.keepsKinds_afterWriting Report.keepsKinds_writeDocument fun disk =>
      Journal.keepsKinds_pure _
  · exact Journal.keepsKinds_pure _

/-- What a run does before its reports does not fail for the kind of a value. -/
theorem keepsKinds_survey
    (request : Request)
    (disk : Disk) :
    (request.survey disk).KeepsKinds := by
  have input : (Journal.ofExcept (checkInput request.input)).KeepsKinds := by
    rw [checkInput]
    cases Input.ofValue? request.input with
    | none => exact Journal.keepsKinds_fail rfl
    | some input => exact Journal.keepsKinds_pure _
  rw [survey]
  exact input.bind fun _ _ => Settings.keepsKinds_check.bind fun _ _ =>
    (Selection.keepsKinds_collect _).bind fun _ _ =>
      (Counting.keepsKinds_countFiles _).bind fun _ _ => Journal.keepsKinds_pure _

/-- A run does not fail for the kind of a value. -/
theorem keepsKinds_run
    (request : Request)
    (disk : Disk) :
    (request.run disk).journal.KeepsKinds := by
  intro fault failed
  rw [run] at failed
  cases ended : (request.survey disk).result with
  | ok survey =>
      simp only [ended] at failed
      exact survey.keepsKinds_report disk fault failed
  | error other =>
      rw [ended] at failed
      cases failed
      exact request.keepsKinds_survey disk fault ended

end Request

end LineTally
