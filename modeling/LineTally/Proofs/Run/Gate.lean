import LineTally.Proofs.Run.BothReports
import LineTally.Proofs.Run.Kinds

namespace LineTally

/-!
# The gate of a run

Values of any kind may be given for the input and for every setting.  A run looks at all of
them before it does anything else, and what it lets through is of the right kind for all
that follows: no step of the run by values fails for the kind of a value.  What it does not
let through is rejected under the code of the first value that does not fit.
-/

/-- What the gate looks at. -/
inductive Checked where
  | input
  | fileTypes
  | ignoreFiles
  | excludeDirs
  | saveDir
  | outputName
  | encoding
  | writeJson
  deriving Repr, DecidableEq

namespace Checked

/-- The order in which the gate looks. -/
def inOrder : List Checked :=
  [ .input, .fileTypes, .ignoreFiles, .excludeDirs, .saveDir, .outputName, .encoding,
    .writeJson ]

/-- The code under which a value that does not fit is rejected. -/
def code :
    Checked → Text
  | .input => "InvalidInput".toList
  | .fileTypes => "InvalidFileTypes".toList
  | .ignoreFiles => "InvalidIgnoreFiles".toList
  | .saveDir => "InvalidSaveDir".toList
  | .excludeDirs | .outputName | .encoding | .writeJson => "InvalidConfiguration".toList

/-- All that is checked comes in the order of the checks. -/
theorem mem_inOrder
    (checked : Checked) :
    checked ∈ inOrder := by
  cases checked <;> decide

end Checked

/-- A value that refers to a file, as a text or as a path. -/
inductive Value.IsReference :
    Value → Prop where
  | string (name : Text) : IsReference (.string name)
  | path (location : Path) : IsReference (.path location)

namespace Request

/-- Whether what is given for a request fits, after its settings have been settled. -/
def Fits
    (request : Request)
    (disk : Disk) :
    Checked → Prop
  | .input =>
      request.input.IsReference ∨
        ∃ items, request.input.IsSequence items ∧ ∀ item ∈ items, item.IsReference
  | .fileTypes =>
      ∃ extensions : List Text,
        request.effectiveSettings.fileTypes.IsSequence (extensions.map .string) ∧
          ∀ extension ∈ extensions, extension.head? = some '.'
  | .ignoreFiles =>
      ∃ names : List Text,
        request.effectiveSettings.ignoreFiles.IsSequence (names.map .string)
  | .excludeDirs =>
      ∃ names : List Text,
        request.effectiveSettings.excludeDirs.IsSequence (names.map .string)
  | .saveDir =>
      ∃ folder,
        request.effectiveSettings.saveFolder disk = .ok folder ∧ disk.isFolder folder = .ok true
  | .outputName =>
      ∃ name, request.effectiveSettings.outputName = .string name ∧ name ≠ []
  | .encoding =>
      ∃ name,
        request.effectiveSettings.encoding = .string name ∧
          Settings.isKnownCharset name = .ok true
  | .writeJson =>
      ∃ chosen, request.effectiveSettings.writeJson = .bool chosen

/-- The disk and the list of charsets answer what the gate asks them about some settings. -/
structure LookupsAnswer
    (request : Request)
    (disk : Disk) :
    Prop where
  folder :
    ∀ folder,
      request.effectiveSettings.saveFolder disk = .ok folder →
      ∃ isThere, disk.isFolder folder = .ok isThere
  charset :
    ∀ name,
      request.effectiveSettings.encoding = .string name →
      ∃ isKnown, Settings.isKnownCharset name = .ok isKnown

/-- The gate lets a request through. -/
def IsAccepted
    (request : Request)
    (disk : Disk) :
    Prop :=
  (∃ input, checkInput request.input = .ok input) ∧
    ∃ plan, (request.effectiveSettings.check disk).result = .ok plan

/-- The complaint about what is given for a request, if it does not fit. -/
def complaintAbout
    (request : Request)
    (disk : Disk)
    (facts : Settings.Facts) :
    Checked → Option Complaint
  | .input => if (Input.ofValue? request.input).isSome then none else some .input
  | .fileTypes => Settings.complaint? request.effectiveSettings.checkFileTypes
  | .ignoreFiles => Settings.complaint? request.effectiveSettings.checkIgnoreFiles
  | .excludeDirs => Settings.complaint? request.effectiveSettings.checkExcludeDirs
  | .saveDir => Settings.complaint? (request.effectiveSettings.checkSaveDir disk facts)
  | .outputName => Settings.complaint? request.effectiveSettings.checkOutputName
  | .encoding => Settings.complaint? (request.effectiveSettings.checkEncoding facts)
  | .writeJson => Settings.complaint? request.effectiveSettings.checkWriteJson

variable
  {request : Request}
  {disk : Disk}
  {facts : Settings.Facts}

/-- If all that is asked is answered, the facts are found. -/
theorem LookupsAnswer.exists_facts
    (answers : request.LookupsAnswer disk) :
    ∃ facts, request.effectiveSettings.facts disk = .ok facts := by
  have folderAnswered :
      ∃ isThere, request.effectiveSettings.folderAnswer disk = .ok isThere := by
    rw [Settings.folderAnswer]
    cases isFolder : request.effectiveSettings.saveFolder disk with
    | error fault =>
        exact ⟨_, rfl⟩
    | ok folder =>
        obtain ⟨isThere, answered⟩ := answers.folder folder isFolder
        exact ⟨isThere, by simp only [answered]; rfl⟩
  have charsetAnswered : ∃ isKnown, request.effectiveSettings.charsetAnswer = .ok isKnown := by
    rw [Settings.charsetAnswer]
    cases isName : request.effectiveSettings.encoding with
    | string name =>
        obtain ⟨isKnown, answered⟩ := answers.charset name isName
        exact ⟨isKnown, by simp only [Value.text?, answered]; rfl⟩
    | _ =>
        exact ⟨_, rfl⟩
  obtain ⟨isThere, folderAnswered⟩ := folderAnswered
  obtain ⟨isKnown, charsetAnswered⟩ := charsetAnswered
  exact ⟨⟨isThere, isKnown⟩, by rw [Settings.facts_eq, folderAnswered, charsetAnswered]; rfl⟩

/-- A complaint about exactly what does not fit, under its code. -/
def IsAbout
    (request : Request)
    (disk : Disk)
    (checked : Checked) :
    Option Complaint → Prop
  | none => request.Fits disk checked
  | some complaint => complaint.code = checked.code ∧ ¬ request.Fits disk checked

/-- A check that passes exactly what fits, and complains about the rest under its code. -/
theorem isAbout_complaint?
    {α : Type}
    {check : Except Complaint α}
    {checked : Checked}
    (passes : (∃ value, check = .ok value) ↔ request.Fits disk checked)
    (codes : ∀ complaint, check = .error complaint → complaint.code = checked.code) :
    request.IsAbout disk checked (Settings.complaint? check) := by
  cases ended : check with
  | ok value =>
      exact passes.mp ⟨value, ended⟩
  | error complaint =>
      refine ⟨codes complaint ended, fun fits => ?_⟩
      obtain ⟨value, passed⟩ := passes.mpr fits
      cases ended.symm.trans passed

/-- A value refers to a file exactly if it is a text or a path. -/
theorem isReference_iff
    {value : Value} :
    value.IsReference ↔ ∃ reference, value.fileRef? = some reference := by
  constructor
  · rintro (_ | _) <;> exact ⟨_, rfl⟩
  · rintro ⟨reference, isReference⟩
    cases value <;> cases isReference
    · exact .string _
    · exact .path _

/-- Items refer to files exactly if all their references can be told. -/
theorem forall_isReference_iff
    {items : List Value} :
    (∀ item ∈ items, item.IsReference) ↔
      ∃ references, items.mapM Value.fileRef? = some references := by
  induction items with
  | nil =>
      simp
  | cons item rest inductionHypothesis =>
      rw [List.forall_mem_cons, isReference_iff, inductionHypothesis]
      simp only [List.mapM_cons, Option.bind_eq_bind, Option.bind_eq_some_iff]
      constructor
      · rintro ⟨⟨first, isFirst⟩, others, areOthers⟩
        exact ⟨first :: others, first, isFirst, others, areOthers, rfl⟩
      · rintro ⟨_, first, isFirst, others, areOthers, -⟩
        exact ⟨⟨first, isFirst⟩, others, areOthers⟩

/-- An input is a reference or a sequence of references. -/
theorem exists_input_iff
    (disk : Disk) :
    (∃ input, Input.ofValue? request.input = some input) ↔ request.Fits disk .input := by
  rw [Fits, isReference_iff]
  simp only [← Value.sequence?_eq_some_iff, forall_isReference_iff]
  rw [Input.ofValue?]
  cases isReference : request.input.fileRef? with
  | some reference =>
      simp
  | none =>
      simp [Option.bind_eq_some_iff]

/-- There is a complaint about the extensions exactly if they do not fit. -/
theorem isAbout_fileTypes :
    request.IsAbout disk .fileTypes
      (Settings.complaint? request.effectiveSettings.checkFileTypes) := by
  apply isAbout_complaint?
  · simp only [Fits, Settings.checkFileTypes, ← Value.texts?_eq_some_iff]
    cases request.effectiveSettings.fileTypes.texts? with
    | none =>
        simp
    | some extensions =>
        simp only [Option.some.injEq]
        split_ifs with dotted <;> simpa using dotted
  · intro complaint failed
    rw [Settings.checkFileTypes] at failed
    split at failed <;> (try split_ifs at failed) <;> cases failed <;> rfl

/-- The complaint about some names, which are only to be texts. -/
theorem isAbout_names
    {checked : Checked}
    {value : Value}
    {complaint : Complaint}
    (fits : request.Fits disk checked ↔ ∃ names : List Text, value.IsSequence (names.map .string))
    (code : complaint.code = checked.code) :
    request.IsAbout disk checked
      (Settings.complaint? (match value.texts? with
        | some names => .ok names
        | none => .error complaint)) := by
  apply isAbout_complaint?
  · simp only [fits, ← Value.texts?_eq_some_iff]
    cases value.texts? <;> simp
  · intro other failed
    split at failed <;> cases failed
    exact code

/-- There is one about the folder of the reports exactly if it does not fit. -/
theorem isAbout_saveDir
    (found : request.effectiveSettings.facts disk = .ok facts) :
    request.IsAbout disk .saveDir
      (Settings.complaint? (request.effectiveSettings.checkSaveDir disk facts)) := by
  apply isAbout_complaint?
  · simp only [Fits, Settings.checkSaveDir]
    cases isFolder : request.effectiveSettings.saveFolder disk with
    | error fault =>
        simp
    | ok folder =>
        have answered := Settings.isFolder_of_facts found isFolder
        cases isThere : facts.folderExists <;> simp [answered, isThere]
  · intro complaint failed
    rw [Settings.checkSaveDir] at failed
    split at failed <;> (try split_ifs at failed) <;> cases failed <;> rfl

/-- There is one about the name of the report exactly if it does not fit. -/
theorem isAbout_outputName :
    request.IsAbout disk .outputName
      (Settings.complaint? request.effectiveSettings.checkOutputName) := by
  apply isAbout_complaint?
  · simp only [Fits, Settings.checkOutputName]
    cases request.effectiveSettings.outputName with
    | string name => cases name <;> simp [Value.text?]
    | _ => simp [Value.text?]
  · intro complaint failed
    rw [Settings.checkOutputName] at failed
    split at failed <;> (try split_ifs at failed) <;> cases failed <;> rfl

/-- There is one about the charset exactly if it does not fit. -/
theorem isAbout_encoding
    (found : request.effectiveSettings.facts disk = .ok facts) :
    request.IsAbout disk .encoding
      (Settings.complaint? (request.effectiveSettings.checkEncoding facts)) := by
  apply isAbout_complaint?
  · simp only [Fits, Settings.checkEncoding]
    cases isName : request.effectiveSettings.encoding with
    | string name =>
        have answered := Settings.isKnownCharset_of_facts found isName
        cases isKnown : facts.charsetKnown <;> simp [Value.text?, answered, isKnown]
    | _ =>
        simp [Value.text?]
  · intro complaint failed
    rw [Settings.checkEncoding] at failed
    split at failed <;> (try split_ifs at failed) <;> cases failed <;> rfl

/-- There is one about the choice of the document exactly if it does not fit. -/
theorem isAbout_writeJson :
    request.IsAbout disk .writeJson
      (Settings.complaint? request.effectiveSettings.checkWriteJson) := by
  apply isAbout_complaint?
  · simp only [Fits, Settings.checkWriteJson]
    cases request.effectiveSettings.writeJson <;> simp
  · intro complaint failed
    rw [Settings.checkWriteJson] at failed
    split at failed <;> cases failed
    rfl

/-- There is a complaint about exactly what does not fit, under its code. -/
theorem isAbout_complaintAbout
    (found : request.effectiveSettings.facts disk = .ok facts)
    (checked : Checked) :
    request.IsAbout disk checked (request.complaintAbout disk facts checked) := by
  cases checked with
  | input =>
      rw [complaintAbout]
      split_ifs with isInput
      · exact (exists_input_iff disk).mp (Option.isSome_iff_exists.mp isInput)
      · exact ⟨rfl, fun fits =>
          isInput (Option.isSome_iff_exists.mpr ((exists_input_iff disk).mpr fits))⟩
  | fileTypes => exact isAbout_fileTypes
  | ignoreFiles => exact isAbout_names Iff.rfl rfl
  | excludeDirs => exact isAbout_names Iff.rfl rfl
  | saveDir => exact isAbout_saveDir found
  | outputName => exact isAbout_outputName
  | encoding => exact isAbout_encoding found
  | writeJson => exact isAbout_writeJson

/-- All complaints come in the order in which the gate looks. -/
theorem filterMap_complaintAbout :
    Checked.inOrder.filterMap (request.complaintAbout disk facts) =
      (request.complaintAbout disk facts .input).toList
        ++ request.effectiveSettings.complaints disk facts := by
  simp only [Checked.inOrder, Settings.complaints_eq, List.filterMap_eq_flatMap_toList,
    List.flatMap_cons, List.flatMap_nil]
  rfl

/-- What settings come to in a check whose facts are found. -/
theorem result_check_of_facts
    {settings : Settings}
    (found : settings.facts disk = .ok facts) :
    (settings.check disk).result = (settings.plan disk facts).mapError .rejected := by
  rw [Settings.check, found]

/-- Without a complaint the gate lets a request through. -/
theorem isAccepted_of_noComplaints
    (found : request.effectiveSettings.facts disk = .ok facts)
    (noComplaints : Checked.inOrder.filterMap (request.complaintAbout disk facts) = []) :
    request.IsAccepted disk := by
  rw [filterMap_complaintAbout] at noComplaints
  obtain ⟨noneOfInput, noneOfSettings⟩ := List.append_eq_nil_iff.mp noComplaints
  have planned := @Settings.plan_eq_firstOf request.effectiveSettings disk facts
  rw [noneOfSettings] at planned
  constructor
  · cases isInput : Input.ofValue? request.input with
    | none => simp [complaintAbout, isInput] at noneOfInput
    | some input => exact ⟨input, by rw [checkInput, isInput]⟩
  · rw [result_check_of_facts found]
    cases isPlan : request.effectiveSettings.plan disk facts with
    | error complaint =>
        rw [isPlan] at planned
        cases planned
    | ok plan =>
        exact ⟨plan, rfl⟩

/-- With complaints the gate rejects a request for the first one. -/
theorem result_run_of_complaints
    {complaint : Complaint}
    {others : List Complaint}
    (found : request.effectiveSettings.facts disk = .ok facts)
    (complaints :
      Checked.inOrder.filterMap (request.complaintAbout disk facts) = complaint :: others) :
    ¬ request.IsAccepted disk ∧
      (request.run disk).journal.result = .error (.rejected complaint) := by
  have result_run {fault : Fault} (failed : (request.survey disk).result = .error fault) :
      (request.run disk).journal.result = .error fault := by
    rw [run, failed]
  -- The input is looked at before the settings, so a complaint about it is the first.
  rw [filterMap_complaintAbout] at complaints
  cases isInput : Input.ofValue? request.input with
  | none =>
      simp only [complaintAbout, isInput, Option.isSome_none, Bool.false_eq_true, if_false,
        Option.toList_some, List.singleton_append, List.cons.injEq] at complaints
      obtain ⟨rfl, -⟩ := complaints
      constructor
      · rintro ⟨⟨input, checked⟩, -⟩
        simp [checkInput, isInput] at checked
      · apply result_run
        rw [survey, checkInput, isInput]
        rfl
  | some input =>
      simp only [complaintAbout, isInput, Option.isSome_some, if_true, Option.toList_none,
        List.nil_append] at complaints
      have planned := @Settings.plan_eq_firstOf request.effectiveSettings disk facts
      rw [complaints] at planned
      cases isPlan : request.effectiveSettings.plan disk facts with
      | ok plan =>
          rw [isPlan] at planned
          cases planned
      | error other =>
          rw [isPlan] at planned
          cases planned
          have checked : (request.effectiveSettings.check disk).result =
              .error (.rejected complaint) := by
            rw [result_check_of_facts found, isPlan]
            rfl
          constructor
          · rintro ⟨-, plan, passed⟩
            cases checked.symm.trans passed
          · apply result_run
            rw [survey, checkInput, isInput]
            simp only [Journal.ofExcept_ok, pure_bind, Journal.result_bind, checked]
            rfl

/-- There is no complaint about exactly what fits. -/
theorem complaintAbout_eq_none_iff
    {checked : Checked}
    (found : request.effectiveSettings.facts disk = .ok facts) :
    request.complaintAbout disk facts checked = none ↔ request.Fits disk checked := by
  have about := isAbout_complaintAbout found checked
  cases isComplaint : request.complaintAbout disk facts checked with
  | none =>
      rw [isComplaint] at about
      exact iff_of_true rfl about
  | some complaint =>
      rw [isComplaint] at about
      exact iff_of_false nofun about.2

/-- The gate lets through exactly the requests of which everything fits. -/
theorem isAccepted_iff
    (found : request.effectiveSettings.facts disk = .ok facts) :
    request.IsAccepted disk ↔ ∀ checked, request.Fits disk checked := by
  cases complaints : Checked.inOrder.filterMap (request.complaintAbout disk facts) with
  | nil =>
      refine iff_of_true (isAccepted_of_noComplaints found complaints) fun checked => ?_
      exact (complaintAbout_eq_none_iff found).mp
        (List.filterMap_eq_nil_iff.mp complaints checked checked.mem_inOrder)
  | cons complaint others =>
      refine iff_of_false (result_run_of_complaints found complaints).1 fun allFit => ?_
      have noComplaints : Checked.inOrder.filterMap (request.complaintAbout disk facts) = [] :=
        List.filterMap_eq_nil_iff.mpr fun checked _ =>
          (complaintAbout_eq_none_iff found).mpr (allFit checked)
      cases complaints.symm.trans noComplaints

/--
A run does the same as the run by values, which looks at each value as it is when a step
needs it, and none of the steps fails for the kind of a value.  If the disk and the list of
charsets answer what they are asked, then the gate lets through exactly the requests of
which everything fits, and rejects any other under the code of the first value that does
not fit.
-/
theorem runByValues_gated
    (request : Request)
    (disk : Disk) :
    request.runByValues disk = request.run disk ∧
      (∀ fault,
        (request.runByValues disk).journal.result = .error fault →
        fault.isOfKind = false) ∧
      (request.LookupsAnswer disk →
        (request.IsAccepted disk ↔ ∀ checked, request.Fits disk checked) ∧
          ∀ before checked after,
            Checked.inOrder = before ++ checked :: after →
            (∀ earlier ∈ before, request.Fits disk earlier) →
            ¬ request.Fits disk checked →
            ∃ complaint,
              (request.runByValues disk).journal.result = .error (.rejected complaint) ∧
                complaint.code = checked.code) := by
  rw [runByValues_eq]
  refine ⟨rfl, request.keepsKinds_run disk, fun answers => ?_⟩
  obtain ⟨facts, found⟩ := answers.exists_facts
  refine ⟨isAccepted_iff found, fun before checked after isSplit earlierFit notFit => ?_⟩
  have about := isAbout_complaintAbout found checked
  cases isComplaint : request.complaintAbout disk facts checked with
  | none =>
      rw [isComplaint] at about
      exact (notFit about).elim
  | some complaint =>
      rw [isComplaint] at about
      -- What fits is not complained about, so the complaint at hand is the first.
      have noneBefore : before.filterMap (request.complaintAbout disk facts) = [] :=
        List.filterMap_eq_nil_iff.mpr fun earlier member =>
          (complaintAbout_eq_none_iff found).mpr (earlierFit earlier member)
      have complaints : Checked.inOrder.filterMap (request.complaintAbout disk facts) =
          complaint :: after.filterMap (request.complaintAbout disk facts) := by
        rw [isSplit, List.filterMap_append, noneBefore, List.nil_append,
          List.filterMap_cons_some isComplaint]
      exact ⟨complaint, (result_run_of_complaints found complaints).2, about.1⟩

/-- A request in which the ignored names, the folder and the charset are of wrong kinds. -/
def misfitRequest : Request where
  input := .list [.string "a.m".toList, .path (.ofText "b.m".toList)]
  fileTypes := .list [.string ".m".toList]
  ignoreFiles := .set [.string "a.m".toList]
  saveDir := .bytes [0x2E]
  settings := { Settings.default with encoding := .integer 8 }

/-- The request is rejected for the ignored names, which are looked at first. -/
theorem runByValues_gated_misfitRequest :
    ∃ complaint,
      (misfitRequest.runByValues singleFileDisk).journal.result = .error (.rejected complaint) ∧
        complaint.code = "InvalidIgnoreFiles".toList := by
  obtain ⟨-, -, gated⟩ := runByValues_gated misfitRequest singleFileDisk
  have answers : misfitRequest.LookupsAnswer singleFileDisk := by
    constructor
    · intro folder isFolder
      cases isFolder
    · intro name isName
      cases isName
  refine (gated answers).2 [.input, .fileTypes] .ignoreFiles
    [.excludeDirs, .saveDir, .outputName, .encoding, .writeJson] rfl ?_ ?_
  · intro earlier member
    rw [List.mem_cons, List.mem_singleton] at member
    rcases member with rfl | rfl
    · refine .inr ⟨_, .list, ?_⟩
      intro item member
      rw [List.mem_cons, List.mem_singleton] at member
      rcases member with rfl | rfl
      · exact .string _
      · exact .path _
    · exact ⟨[".m".toList], .tuple, by decide⟩
  · rintro ⟨names, isSequence⟩
    cases isSequence

end Request

end LineTally
