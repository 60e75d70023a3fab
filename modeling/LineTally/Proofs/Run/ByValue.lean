import LineTally.Proofs.Charset.Known
import LineTally.Proofs.Run.Reporting
import LineTally.Proofs.Run.Unchecked
import LineTally.Run.ByValue

namespace LineTally

/-!
# Runs by value

A run plans its steps from settings that it has checked, and from there on has texts only.
The run by values has no plan: its steps look at the values of the settings as they are,
and every look that can fail does so where the kind of the value is wrong.  The two runs
are the same, so the check leaves no such look to fail.
-/

namespace Settings

variable
  {settings : Settings}
  {disk : Disk}

/-- A value holds texts only exactly if it has texts. -/
theorem isTexts_eq
    (value : Value) :
    isTexts value = value.texts?.isSome := by
  have all_eq (items : List Value) :
      (items.all fun item => item.text?.isSome) = (items.mapM Value.text?).isSome := by
    induction items with
    | nil =>
        rfl
    | cons item rest inductionHypothesis =>
        rw [List.all_cons, inductionHypothesis, List.mapM_cons]
        cases item.text? with
        | none => rfl
        | some text => cases rest.mapM Value.text? <;> rfl
  cases isSequence : value.sequence? with
  | none => simp [isTexts, Value.texts?, isSequence]
  | some items => simp [isTexts, Value.texts?, isSequence, all_eq]

/-- The extensions are complained about as they are checked. -/
theorem fileTypesComplaints_eq :
    settings.fileTypesComplaints = .ok (complaint? settings.checkFileTypes).toList := by
  rw [fileTypesComplaints, isTexts_eq, checkFileTypes]
  cases areTexts : settings.fileTypes.texts? with
  | none =>
      rfl
  | some extensions =>
      have isSequence := Value.texts?_eq_some_iff.mp areTexts
      have sameAnswer : ((extensions.map Value.string).all startsWithDot) =
          extensions.all fun extension => extension.head? = some '.' := by
        rw [List.all_map]
        rfl
      simp only [Option.isSome_some, Bool.not_true, Bool.false_eq_true, if_false,
        Value.items_of_isSequence isSequence, Except.mapError, bind, Except.bind, pure,
        Except.pure, sameAnswer, complainUnless]
      split_ifs <;> rfl

/-- Names are complained about as they are checked. -/
theorem complainUnless_texts
    (value : Value)
    (complaint : Complaint) :
    complainUnless (isTexts value) complaint =
      (complaint? (match value.texts? with
        | some names => .ok names
        | none => .error complaint)).toList := by
  rw [isTexts_eq]
  cases value.texts? <;> rfl

/-- The name of the report is complained about as it is checked. -/
theorem complainUnless_outputName :
    complainUnless (settings.outputName.text?.isSome && !settings.outputName.isEmpty)
        .outputName =
      (complaint? settings.checkOutputName).toList := by
  rw [checkOutputName]
  cases isName : settings.outputName with
  | string name => cases name <;> rfl
  | _ => rfl

/-- The choice of the document is complained about as it is checked. -/
theorem complainUnless_writeJson :
    complainUnless (isTruthValue settings.writeJson) .writeJson =
      (complaint? settings.checkWriteJson).toList := by
  rw [checkWriteJson]
  cases isChoice : settings.writeJson <;> rfl

/-- The complaints about settings are those of the checks one after the other. -/
theorem complaints_eq
    (facts : Facts) :
    settings.complaints disk facts =
      (complaint? settings.checkFileTypes).toList
        ++ ((complaint? settings.checkIgnoreFiles).toList
        ++ ((complaint? settings.checkExcludeDirs).toList
        ++ ((complaint? (settings.checkSaveDir disk facts)).toList
        ++ ((complaint? settings.checkOutputName).toList
        ++ ((complaint? (settings.checkEncoding facts)).toList
        ++ ((complaint? settings.checkWriteJson).toList ++ [])))))) := by
  simp only [complaints, List.filterMap_eq_flatMap_toList, List.flatMap_cons, List.flatMap_nil,
    id]

/-- What the disk says about the folder of the reports, if it is asked. -/
def folderAnswer
    (settings : Settings)
    (disk : Disk) :
    Except Fault Bool :=
  match settings.saveFolder disk with
  | .ok folder => (disk.isFolder folder).mapError .disk
  | .error _ => .ok false

/-- What the list of charsets says about the name of the charset, if it is asked. -/
def charsetAnswer
    (settings : Settings) :
    Except Fault Bool :=
  match settings.encoding.text? with
  | some name => (isKnownCharset name).mapError .decode
  | none => .ok false

/-- The facts about settings are the two answers, that of the disk first. -/
theorem facts_eq :
    settings.facts disk = do
      let folderExists ← settings.folderAnswer disk
      let charsetKnown ← settings.charsetAnswer
      return ⟨folderExists, charsetKnown⟩ := by
  rw [facts, folderAnswer, charsetAnswer]
  cases settings.saveFolder disk <;> cases settings.encoding.text? <;> rfl

/-- The folder of the reports is complained about as it is checked, once it is looked for. -/
theorem saveDirComplaints_eq
    (charsetKnown : Bool) :
    settings.saveDirComplaints disk =
      (settings.folderAnswer disk).map fun folderExists =>
        (complaint? (settings.checkSaveDir disk ⟨folderExists, charsetKnown⟩)).toList := by
  have isKind : (!settings.saveDir.isAbsent && settings.saveDir.fileRef?.isNone) =
      (settings.saveFolder disk).toOption.isNone := by
    rw [saveFolder]
    cases settings.saveDir <;> rfl
  simp only [saveDirComplaints, isKind, folderAnswer, checkSaveDir]
  cases settings.saveFolder disk with
  | error fault =>
      rfl
  | ok folder =>
      simp only [Except.toOption, Option.isNone_some, Bool.false_eq_true, if_false]
      cases asked : disk.isFolder folder with
      | error fault =>
          simp [asked, Except.mapError, Except.map, bind, Except.bind]
      | ok isThere =>
          cases isThere <;>
            simp [asked, Except.mapError, Except.map, bind, Except.bind, pure, Except.pure,
              complainUnless, complaint?]

/-- The charset is complained about as it is checked, once it has been looked up. -/
theorem encodingComplaints_eq
    (folderExists : Bool) :
    settings.encodingComplaints =
      settings.charsetAnswer.map fun charsetKnown =>
        (complaint? (settings.checkEncoding ⟨folderExists, charsetKnown⟩)).toList := by
  rw [encodingComplaints, charsetAnswer]
  simp only [checkEncoding]
  cases settings.encoding with
  | string name =>
      simp only [Value.text?, isKnownByValue]
      cases isKnownCharset name with
      | error fault => rfl
      | ok isKnown => cases isKnown <;> rfl
  | _ => rfl

/-- The values of settings are complained about as what is found out says. -/
theorem complaintsByValue_eq :
    settings.complaintsByValue disk =
      (settings.facts disk).map (settings.complaints disk) := by
  simp only [complaintsByValue, fileTypesComplaints_eq, complainUnless_texts,
    complainUnless_outputName, complainUnless_writeJson, facts_eq,
    saveDirComplaints_eq false]
  -- The disk is asked first, and after a fault of it no charset is looked up.
  cases folderAnswered : settings.folderAnswer disk with
  | error fault =>
      rfl
  | ok folderExists =>
      rw [encodingComplaints_eq folderExists]
      cases charsetAnswered : settings.charsetAnswer with
      | error fault =>
          rfl
      | ok charsetKnown =>
          simp only [Except.map, bind, Except.bind, pure, Except.pure, complaints_eq,
            List.append_nil]
          rfl

/-- A check and others after it fail with the first complaint. -/
theorem firstOf_bind
    {α β : Type}
    {check : Except Complaint α}
    {next : α → Except Complaint β}
    {others : List Complaint}
    (later : ∀ value, (next value).map (fun _ => ()) = firstOf others) :
    (check >>= next).map (fun _ => ()) = firstOf ((complaint? check).toList ++ others) := by
  cases check with
  | error complaint =>
      rfl
  | ok value =>
      exact later value

/-- There is a plan if there are no complaints, and otherwise the first one. -/
theorem plan_eq_firstOf
    (facts : Facts) :
    (settings.plan disk facts).map (fun _ => ()) = firstOf (settings.complaints disk facts) := by
  rw [complaints_eq]
  -- One step for each of the seven checks: the plan ends where the first one complains.
  exact firstOf_bind fun _ => firstOf_bind fun _ => firstOf_bind fun _ => firstOf_bind fun _ =>
    firstOf_bind fun _ => firstOf_bind fun _ => firstOf_bind fun _ => rfl

/-- Values are checked as for a plan. -/
theorem checkByValue_eq :
    settings.checkByValue disk = do
      let _ ← settings.check disk
      return () := by
  rw [checkByValue, check, complaintsByValue_eq]
  cases settings.facts disk with
  | error fault =>
      rfl
  | ok facts =>
      simp only [Except.map, ← plan_eq_firstOf]
      cases settings.plan disk facts with
      | error complaint => rfl
      | ok plan => simp [bind, Journal.bind, pure, Journal.pure, Except.mapError]

/-- What settings say about the counting of the plan that follows from them. -/
structure PlansCounting
    (settings : Settings)
    (plan : Plan) :
    Prop where
  extensions : settings.fileTypes.IsSequence (plan.extensions.map .string)
  ignored : settings.ignoreFiles.IsSequence (plan.ignored.map .string)
  excluded : settings.excludeDirs.IsSequence (plan.excluded.map .string)
  charset : settings.encoding = .string plan.charset
  charsetKnown : isKnownCharset plan.charset = .ok true

/-- A value whose names pass a check is a list or tuple of these names. -/
theorem isSequence_of_names
    {value : Value}
    {complaint : Complaint}
    {names : List Text}
    (passed : (match value.texts? with
      | some names => .ok names
      | none => .error complaint) = Except.ok names) :
    value.IsSequence (names.map .string) := by
  split at passed
  next found =>
    cases passed
    exact Value.texts?_eq_some_iff.mp found
  next =>
    cases passed

/-- What the facts say of the charset is whether its name is known. -/
theorem isKnownCharset_of_facts
    {facts : Facts}
    {name : Text}
    (found : settings.facts disk = .ok facts)
    (isName : settings.encoding = .string name) :
    isKnownCharset name = .ok facts.charsetKnown := by
  rw [facts_eq] at found
  obtain ⟨folderExists, -, found⟩ := Except.bind_eq_ok_iff.mp found
  obtain ⟨charsetKnown, answered, made⟩ := Except.bind_eq_ok_iff.mp found
  cases made
  simp only [charsetAnswer, isName, Value.text?] at answered
  cases asked : isKnownCharset name <;> rw [asked] at answered <;> cases answered
  rfl

/-- A charset that passes the check is given by a name that is known. -/
theorem checkEncoding_eq_ok
    {facts : Facts}
    {name : Text}
    (found : settings.facts disk = .ok facts)
    (passed : settings.checkEncoding facts = .ok name) :
    settings.encoding = .string name ∧ isKnownCharset name = .ok true := by
  rw [checkEncoding] at passed
  cases isName : settings.encoding with
  | string chars =>
      simp only [isName, Value.text?] at passed
      split_ifs at passed with isKnown
      cases passed
      exact ⟨rfl, by rw [isKnownCharset_of_facts found isName, isKnown]⟩
  | _ =>
      simp [isName, Value.text?] at passed

/-- The counting that is planned from settings that pass the check. -/
theorem plansCounting_of_check
    {plan : Plan}
    (checked : (settings.check disk).result = .ok plan) :
    settings.PlansCounting plan := by
  rw [check] at checked
  split at checked
  next =>
    cases checked
  next facts found =>
    cases planned : settings.plan disk facts with
    | error complaint =>
        rw [planned] at checked
        cases checked
    | ok other =>
        rw [planned] at checked
        cases checked
        simp only [Settings.plan, Except.bind_eq_ok_iff] at planned
        obtain ⟨extensions, fileTypes, ignored, ignoreFiles, excluded, excludeDirs, _, _, _, _,
          charset, encoding, _, _, made⟩ := planned
        cases made
        obtain ⟨isName, isKnown⟩ := checkEncoding_eq_ok found encoding
        refine ⟨?_, isSequence_of_names ignoreFiles, isSequence_of_names excludeDirs, isName,
          isKnown⟩
        rw [checkFileTypes] at fileTypes
        split at fileTypes
        next found =>
          split_ifs at fileTypes
          cases fileTypes
          exact Value.texts?_eq_some_iff.mp found
        next =>
          cases fileTypes

end Settings

namespace Counting

variable
  {disk : Disk}

/-- With a charset that is known a file is read by values as it is by texts. -/
theorem readTextByValues_texts
    {charset : Text}
    (isKnown : Settings.isKnownCharset charset = .ok true) :
    readTextByValues disk (.string charset) (.string strayPolicy) =
      readText disk charset strayPolicy := by
  -- An argument with a NUL would be refused before the file is read.
  have noNul : charset.any (· = '\x00') = false := by
    rw [Settings.isKnownCharset] at isKnown
    split_ifs at isKnown with nul
    exact Bool.eq_false_of_not_eq_true nul
  have policyNoNul : strayPolicy.any (· = '\x00') = false := by
    decide
  funext path
  rw [readTextByValues, readText]
  congr 1
  funext content?
  cases content? with
  | none => rfl
  | some content =>
      simp [openArgument, noNul, policyNoNul, Journal.ofExcept]
      rfl

/-- With a charset that is known texts are counted by value as they are by name. -/
theorem countValues_texts
    {charset : Text}
    (isKnown : Settings.isKnownCharset charset = .ok true)
    (texts : List Text) :
    countValues disk (.string charset) (texts.map .string) =
      countFiles disk charset (texts.map .ofText) := by
  induction texts with
  | nil =>
      rfl
  | cons text rest inductionHypothesis =>
      have first : countValue disk (.string charset) (.string text) =
          countFile disk charset (.ofText text) := by
        rw [countValue, countFile, readTextByValues_texts isKnown]
        rfl
      rw [List.map_cons, List.map_cons, countValues, countFiles, first, inductionHypothesis]

end Counting

/-- Reports are written by values as the plan of the settings says. -/
theorem Settings.reportByValues_eq
    {settings : Settings}
    {disk : Disk}
    {plan : Plan}
    (plans : settings.Plans disk plan)
    (tally : Tally) :
    settings.reportByValues disk tally = Request.Survey.report ⟨plan, tally⟩ disk := by
  have text (disk : Disk) :
      Report.writeTextByValue disk tally plan.folder (.string plan.outputName) =
        Report.writeText disk tally plan.folder plan.outputName := by
    simp only [Report.writeTextByValue, Report.targetByValue, Value.fileRef?,
      Journal.ofKind_ok, pure_bind, Report.writeText, Report.textPath, FileRef.toPath]
  have document (disk : Disk) :
      Report.writeDocumentByValue disk tally plan.folder (.string plan.outputName) =
        Report.writeDocument disk tally plan.folder plan.outputName := by
    simp only [Report.writeDocumentByValue, Report.targetByValue, Value.fileRef?,
      Journal.ofKind_ok, pure_bind, Report.writeDocument, Report.documentPath,
      Report.textPath, FileRef.toPath]
    cases (plan.folder.join (.ofText plan.outputName)).withSuffix? ".json".toList with
    | none => simp only [Journal.ofExcept_error, Journal.fail_bind]
    | some path => simp only [Journal.ofExcept_ok, pure_bind]
  have choice : (Value.bool plan.writeDocument).isEmpty = !plan.writeDocument := by
    cases plan.writeDocument <;> rfl
  simp only [reportByValues, plans.folder, plans.outputName, plans.writeJson, choice, text,
    document, Request.Survey.report, Bool.not_eq_true']
  congr 1
  funext later
  rw [Request.Survey.reportDocument]
  cases plan.writeDocument <;> simp only [if_true, if_false, Bool.true_eq_false, Bool.false_eq_true]

namespace Request

variable
  {request : Request}
  {disk : Disk}

/-- The tally by values is that of a survey. -/
theorem tallyByValues_eq :
    request.tallyByValues disk = do
      let survey ← request.survey disk
      return survey.tally := by
  rw [tallyByValues, survey, checkInput]
  cases isInput : Input.ofValue? request.input with
  | none =>
      simp only [Journal.ofExcept_error, Journal.fail_bind]
  | some input =>
      simp only [Journal.ofExcept_ok, pure_bind, Settings.checkByValue_eq, bind_assoc]
      -- What follows the check has to agree only where the check has passed.
      apply Journal.bind_congr_of_ok
      intro plan checked
      have plans := Settings.plansCounting_of_check checked
      rw [Selection.collectByValue_texts plans.extensions plans.ignored plans.excluded isInput,
        plans.charset]
      simp only [bind_assoc, pure_bind, Counting.countValues_texts plans.charsetKnown,
        bind_pure]

/-- The run by values is the run. -/
theorem runByValues_eq :
    request.runByValues disk = request.run disk := by
  rw [runByValues, run, tallyByValues_eq]
  cases surveyed : (request.survey disk).result with
  | error fault =>
      have failed : request.survey disk = ⟨(request.survey disk).notes, .error fault⟩ := by
        rw [← surveyed]
      rw [failed]
      rfl
  | ok survey =>
      have found : request.survey disk = ⟨(request.survey disk).notes, .ok survey⟩ := by
        rw [← surveyed]
      rw [found, Journal.ok_bind]
      have reported := Settings.reportByValues_eq (plans_of_survey surveyed) survey.tally
      simp only [pure, Journal.pure, List.append_nil, reported]

end Request

end LineTally
