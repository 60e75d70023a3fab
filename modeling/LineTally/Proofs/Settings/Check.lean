import LineTally.Proofs.Disk.Destination
import LineTally.Proofs.Run.Journal
import LineTally.Settings.Plan

namespace LineTally.Settings

/-!
# Settings that pass the check

Settings that pass the check say where the reports go: into a folder that is there, under
a name that is not empty.  The check only asks the disk for its folders, so it comes to
the same after files have been edited.
-/

/-- What settings say about the reports of the plan that follows from them. -/
structure Plans
    (settings : Settings)
    (disk : Disk)
    (plan : Plan) :
    Prop where
  folder : settings.saveFolder disk = .ok plan.folder
  folderExists : disk.isFolder plan.folder = .ok true
  outputName : settings.outputName = .string plan.outputName
  named : plan.outputName ≠ []
  writeJson : settings.writeJson = .bool plan.writeDocument

section Checks

variable
  {settings : Settings}
  {disk : Disk}
  {facts : Facts}

/-- A folder of reports that passes the check is one that the facts say is there. -/
theorem checkSaveDir_eq_ok
    {folder : Path}
    (passed : settings.checkSaveDir disk facts = .ok folder) :
    settings.saveFolder disk = .ok folder ∧ facts.folderExists = true := by
  rw [checkSaveDir] at passed
  split at passed
  next found isFolder =>
    split_ifs at passed with isThere
    cases passed
    exact ⟨isFolder, isThere⟩
  next =>
    cases passed

/-- A name of a report that passes the check is a text that is not empty. -/
theorem checkOutputName_eq_ok
    {name : Text}
    (passed : settings.checkOutputName = .ok name) :
    settings.outputName = .string name ∧ name ≠ [] := by
  rw [checkOutputName] at passed
  split at passed
  next found isText =>
    split_ifs at passed with empty
    cases passed
    refine ⟨?_, fun none => empty (List.isEmpty_iff.mpr none)⟩
    cases isValue : settings.outputName <;> rw [isValue] at isText <;> cases isText
    rfl
  next =>
    cases passed

/-- A choice to write the document that passes the check is a truth value. -/
theorem checkWriteJson_eq_ok
    {chosen : Bool}
    (passed : settings.checkWriteJson = .ok chosen) :
    settings.writeJson = .bool chosen := by
  rw [checkWriteJson] at passed
  split at passed
  next value isValue =>
    cases passed
    exact isValue
  next =>
    cases passed

/-- The facts about settings say whether their folder is there. -/
theorem isFolder_of_facts
    {folder : Path}
    (found : settings.facts disk = .ok facts)
    (isFolder : settings.saveFolder disk = .ok folder) :
    disk.isFolder folder = .ok facts.folderExists := by
  simp only [Settings.facts, Except.bind_eq_ok_iff, isFolder] at found
  obtain ⟨folderExists, asked, found⟩ := found
  have isThere : facts.folderExists = folderExists := by
    split at found <;>
      obtain ⟨_, _, made⟩ := Except.bind_eq_ok_iff.mp found <;>
      cases made <;>
      rfl
  cases answer : disk.isFolder folder with
  | error fault =>
      rw [answer] at asked
      cases asked
  | ok answered =>
      rw [answer] at asked
      cases asked
      rw [isThere]

/-- The facts about settings with a folder that is there and a charset that is known. -/
theorem facts_eq_ok
    {folder : Path}
    {name : Text}
    (isFolder : settings.saveFolder disk = .ok folder)
    (folderExists : disk.isFolder folder = .ok true)
    (isName : settings.encoding = .string name)
    (charsetKnown : isKnownCharset name = .ok true) :
    settings.facts disk = .ok ⟨true, true⟩ := by
  simp only [Settings.facts, isFolder, folderExists, isName, Value.text?, charsetKnown]
  rfl

end Checks

/-- The plan of settings that pass the check. -/
theorem plans_of_check
    {settings : Settings}
    {disk : Disk}
    {plan : Plan}
    (checked : (settings.check disk).result = .ok plan) :
    settings.Plans disk plan := by
  rw [check] at checked
  split at checked
  next =>
    cases checked
  next facts found =>
    cases planned : settings.plan disk facts with
    | error complaint =>
        rw [planned] at checked
        cases checked
    | ok other =>
        rw [planned] at checked
        cases checked
        simp only [Settings.plan, Except.bind_eq_ok_iff] at planned
        obtain ⟨_, _, _, _, _, _, folder, saveDir, name, outputName, _, _, chosen, writeJson,
          made⟩ := planned
        cases made
        obtain ⟨isFolder, isThere⟩ := checkSaveDir_eq_ok saveDir
        obtain ⟨isName, named⟩ := checkOutputName_eq_ok outputName
        have folderExists := isFolder_of_facts found isFolder
        rw [isThere] at folderExists
        exact ⟨isFolder, folderExists, isName, named, checkWriteJson_eq_ok writeJson⟩

/-- After files have been edited settings pass the check as before, with the same plan. -/
theorem check_eq
    {disk later : Disk}
    (edits : disk.EditsFiles later)
    (settings : Settings) :
    settings.check later = settings.check disk := by
  have sameFolder : settings.saveFolder later = settings.saveFolder disk := by
    rw [saveFolder, saveFolder, edits.here]
  have sameFacts : settings.facts later = settings.facts disk := by
    simp only [Settings.facts, sameFolder, edits.isFolder_eq]
  simp only [check, sameFacts, complaints, Settings.plan, checkSaveDir, sameFolder]

end LineTally.Settings
