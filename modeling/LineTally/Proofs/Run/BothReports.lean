import LineTally.Proofs.Disk.LinkFree
import LineTally.Proofs.Run.Reporting

namespace LineTally

/-!
# Both reports

Without links the two reports of a run are in the same file only if they have the same
path.  That is so exactly if the name chosen for the text report has the suffix of the
document already, and then the document is all that is left.
-/

/-- Without links a path with another suffix leads to the same file only if it is the same. -/
theorem Disk.eq_of_same_place
    {disk : Disk}
    (linkFree : disk.root.LinkFree)
    {suffix : Text}
    {path other : Path}
    {place : List Text}
    (made : path.withSuffix? suffix = some other)
    (leads : disk.place? path = some place)
    (otherLeads : disk.place? other = some place)
    (notFolder : disk.root.shapeAt? place ≠ some .folder) :
    other = path := by
  obtain ⟨front, last, isPath, isOther⟩ := Path.exists_of_withSuffix? made
  have named : path.parts ≠ [] := by
    rw [isPath]
    simp
  have otherNamed : other.parts ≠ [] := by
    rw [isOther]
    simp
  have sameLast := getLast?_place linkFree otherLeads notFolder otherNamed
  rw [getLast?_place linkFree leads notFolder named, isPath, isOther, List.getLast?_concat,
    List.getLast?_concat, Option.some.injEq] at sameLast
  rw [isOther, ← sameLast, ← isPath]

namespace Report

/-- The text report starts with its heading. -/
theorem head?_text
    (tally : Tally) :
    (text tally).head? = some 'F' := by
  rfl

/-- The document starts with a brace. -/
theorem head?_documentText
    {tally : Tally}
    {content : Text}
    (printed : documentText tally = .ok content) :
    content.head? = some '\x7b' := by
  obtain ⟨json, documented, printed⟩ := Except.bind_eq_ok_iff.mp printed
  obtain ⟨statistics, _, made⟩ := Except.bind_eq_ok_iff.mp documented
  cases made
  split_ifs at printed
  cases printed
  rfl

/-- A path that has the suffix of the document, so that the document gets the same path. -/
def HasDocumentSuffix
    (path : Path) :
    Prop :=
  ∃ stem, stem ≠ [] ∧ path.name = stem ++ ".json".toList

/-- The document has the path of the text report exactly if this has the suffix already. -/
theorem documentPath_eq_textPath_iff
    {folder path : Path}
    {name : Text}
    (located : documentPath folder name = .ok path) :
    path = textPath folder name ↔ HasDocumentSuffix (textPath folder name) := by
  obtain ⟨front, last, isText, isDocument⟩ :=
    Path.exists_of_withSuffix? (documentPath_eq_ok_iff.mp located)
  have isLast : (textPath folder name).name = last := by
    rw [isText, Path.name, List.getLast?_concat, Option.getD_some]
  have dotted : ".json".toList = '.' :: "json".toList := by
    decide
  rw [HasDocumentSuffix, isLast,
    ← Path.replaceSuffix_eq_self_iff dotted (by decide) (by decide), isDocument]
  constructor
  · intro same
    rw [isText, Path.mk.injEq] at same
    exact List.singleton_inj.mp (List.append_cancel_left same.2)
  · intro same
    rw [same, ← isText]

end Report

namespace Request

/-- What a run leaves behind that succeeds: the document if asked for, and the text beside. -/
theorem Survey.Ends.holds
    {request : Request}
    {disk later : Disk}
    (linkFree : disk.root.LinkFree)
    {survey : Survey}
    {tally : Tally}
    (surveyed : (request.survey disk).result = .ok survey)
    (ends : survey.Ends disk later (.ok tally)) :
    (later.HoldsText (Report.textPath survey.plan.folder survey.plan.outputName)
          (Report.text tally) ↔
        ¬ (survey.plan.writeDocument = true ∧
          Report.HasDocumentSuffix
            (Report.textPath survey.plan.folder survey.plan.outputName))) ∧
      (survey.plan.writeDocument = true →
        ∃ path content,
          Report.documentPath survey.plan.folder survey.plan.outputName = .ok path ∧
            Report.documentText tally = .ok content ∧
            later.HoldsText path content) := by
  refine ⟨⟨?_, fun apart => ?_⟩, ends.holdsDocument surveyed⟩
  · rintro holds ⟨double, hasSuffix⟩
    obtain ⟨path, content, located, printed, document⟩ := ends.holdsDocument surveyed double
    rw [← Report.documentPath_eq_textPath_iff located] at hasSuffix
    subst hasSuffix
    have sameHead := congrArg List.head? (holds.unique document)
    rw [Report.head?_text, Report.head?_documentText printed] at sameHead
    cases sameHead
  · refine ends.holdsText_of_apart surveyed fun double path located samePlace => apart ⟨double, ?_⟩
    rw [← Report.documentPath_eq_textPath_iff located]
    cases ends with
    | textOnly single wroteText =>
        cases single.symm.trans double
    | both double wroteText wroteDocument =>
        obtain ⟨place, wrote⟩ := exists_wrote_of_writesText surveyed wroteText
        obtain ⟨documentPlace, wroteToo⟩ :=
          exists_wrote_of_writesDocument surveyed wrote.editsFiles wroteDocument
        rw [wroteToo.editsFiles.place?_eq, wroteToo.editsFiles.place?_eq,
          wrote.editsFiles.place?_eq, wrote.editsFiles.place?_eq, wrote.leads] at samePlace
        exact Disk.eq_of_same_place linkFree (Report.documentPath_eq_ok_iff.mp located)
          wrote.leads samePlace wrote.edits.before.notFolder

/--
A run that succeeds on a disk without links leaves its whole text report in the file of
its path, unless the document was asked for and this path has the suffix of the document
already: then, and only then, the text is lost.  The document, if asked for, is in its
file in any case.
-/
theorem textReport_survives_iff
    {request : Request}
    {disk : Disk}
    {tally : Tally}
    (linkFree : disk.root.LinkFree)
    (ended : (request.run disk).journal.result = .ok tally) :
    ∃ plan,
      (request.effectiveSettings.check disk).result = .ok plan ∧
        ((request.run disk).disk.HoldsText
              (Report.textPath plan.folder plan.outputName) (Report.text tally) ↔
            ¬ (plan.writeDocument = true ∧
              Report.HasDocumentSuffix (Report.textPath plan.folder plan.outputName))) ∧
        (plan.writeDocument = true →
          ∃ path content,
            Report.documentPath plan.folder plan.outputName = .ok path ∧
              Report.documentText tally = .ok content ∧
              (request.run disk).disk.HoldsText path content) := by
  obtain ⟨survey, surveyed, ends⟩ := exists_survey_of_run ended
  obtain ⟨_, _, _, checked, _, _⟩ := survey_eq_ok_iff.mp surveyed
  exact ⟨survey.plan, checked, ends.holds linkFree surveyed⟩

/-- A disk with one file of one line. -/
def singleFileDisk : Disk :=
  ⟨.folder [("a.m".toList, .file (.bytes [0x78, 0x3D, 0x31, 0x3B, 0x0A]))], []⟩

/-- There are no links on this disk. -/
theorem linkFree_singleFileDisk :
    singleFileDisk.root.LinkFree :=
  Node.linkFree_folder (List.forall_mem_singleton.mpr (Node.linkFree_file _))

/-- A request to count the file and to write both reports, the text under the given name. -/
def forReportsNamed
    (name : Text) :
    Request where
  input := .string "a.m".toList
  settings := { Settings.default with outputName := .string name, writeJson := .bool true }

/-- The records of the one file. -/
def singleFileTally : Tally :=
  [⟨"a.m".toList, ⟨1, 0, 0, 1⟩⟩]

/-- Under a name with another suffix the text report survives. -/
theorem textReport_survives_iff_singleFileDisk :
    ((forReportsNamed "r.txt".toList).run singleFileDisk).journal.result =
        .ok singleFileTally ∧
      ((forReportsNamed "r.txt".toList).run singleFileDisk).disk.HoldsText
        (.ofText "/r.txt".toList) (Report.text singleFileTally) := by
  have ended :
      ((forReportsNamed "r.txt".toList).run singleFileDisk).journal.result =
        .ok singleFileTally := by
    decide +kernel
  obtain ⟨plan, checked, survives, _⟩ := textReport_survives_iff linkFree_singleFileDisk ended
  have plans := Settings.plans_of_check checked
  have folder : plan.folder = ⟨.root, []⟩ := (Except.ok.inj plans.folder).symm
  have outputName : plan.outputName = "r.txt".toList := (Value.string.inj plans.outputName).symm
  have path : Report.textPath plan.folder plan.outputName = .ofText "/r.txt".toList := by
    rw [folder, outputName]
    decide
  rw [path] at survives
  refine ⟨ended, survives.mpr ?_⟩
  rintro ⟨_, stem, _, endsWith⟩
  have isSuffix : ".json".toList <:+ (Path.ofText "/r.txt".toList).name := ⟨stem, endsWith.symm⟩
  exact absurd isSuffix (by decide)

/-- The plan that follows from the request. -/
def planNamed
    (name : Text) :
    Plan where
  extensions := [".m".toList]
  ignored := []
  excluded := []
  folder := ⟨.root, []⟩
  outputName := name
  charset := "utf-8".toList
  writeDocument := true

/-- Under a name with the suffix of the document the text report does not survive. -/
theorem textReport_not_always_survives :
    ¬ ∀ (request : Request) (disk : Disk) (tally : Tally) (plan : Plan),
        disk.root.LinkFree →
        (request.run disk).journal.result = .ok tally →
        (request.effectiveSettings.check disk).result = .ok plan →
        (request.run disk).disk.HoldsText
          (Report.textPath plan.folder plan.outputName) (Report.text tally) := by
  intro always
  obtain ⟨ended, checked, lost⟩ :
      ((forReportsNamed "r.json".toList).run singleFileDisk).journal.result =
          .ok singleFileTally ∧
        ((forReportsNamed "r.json".toList).effectiveSettings.check singleFileDisk).result =
          .ok (planNamed "r.json".toList) ∧
        ((forReportsNamed "r.json".toList).run singleFileDisk).disk.content?
            (Report.textPath (planNamed "r.json".toList).folder
              (planNamed "r.json".toList).outputName) ≠
          some (Utf8.encode (Report.text singleFileTally)) := by
    decide +kernel
  have holds := always _ _ _ _ linkFree_singleFileDisk ended checked
  rw [Disk.holdsText_iff] at holds
  exact lost holds

end Request

end LineTally
