import LineTally.Proofs.Disk.Content
import LineTally.Proofs.Run.Journal
import LineTally.Run.Counting

namespace LineTally.Counting

/-!
# Counting one file

What becomes of one file depends on its path, on whether there is a file that can be
read, and on what its bytes are decoded to.  There is one lemma for each of the seven
outcomes; five of them give a record, and the notes tell them apart.
-/

/-- The path that a reference is looked up by. -/
def pathOf
    (reference : FileRef) :
    Path :=
  .ofText reference.toText

/-- The warning that a file is not there. -/
def notFound
    (name : Text) :
    Note :=
  ⟨.warning, .counting,
    "File \"".toList ++ name ++ "\" not found. Counts set to zero.".toList⟩

/-- The warning that a file could not be opened. -/
def notOpened
    (name : Text)
    (fault : Fault) :
    Note :=
  ⟨.warning, .counting,
    "Unable to open file \"".toList ++ name ++ "\". Counts set to zero. (".toList
      ++ fault.message ++ [')']⟩

/-- The note that a file is passed over as binary. -/
def passedOver
    (path : Path) :
    Note :=
  ⟨.debug, .disk, "Skipping binary content in ".toList ++ path.toText⟩

/-- The note of the counts of a file. -/
def counted
    (record : FileRecord) :
    Note :=
  ⟨.debug, .counting, record.path ++ ": ".toList ++ countsText record.counts⟩

/-- The warnings among some notes. -/
def warnings
    (notes : List Note) :
    List Note :=
  notes.filter fun note => note.level = .warning

/-- There is a NUL in the sample of some content exactly if one of its bytes is zero. -/
theorem hasNul_sample_iff
    {content : List UInt8} :
    hasNul (some sampleSize) content = true ↔ 0 ∈ content.take 1024 := by
  simp [hasNul, sampleSize, List.any_eq_true]

/-- There is no NUL in the sample of some content if none of its bytes is zero. -/
theorem hasNul_sample_eq_false
    {content : List UInt8}
    (noNul : 0 ∉ content.take 1024) :
    hasNul (some sampleSize) content = false := by
  rw [Bool.eq_false_iff]
  intro nul
  exact noNul (hasNul_sample_iff.mp nul)

section Outcomes

variable
  {disk : Disk}
  {charset : Text}
  {reference : FileRef}
  {content : List UInt8}

/-- Counting fails on a path that the disk refuses. -/
theorem countFile_of_refusesPath
    (refused : disk.RefusesPath (pathOf reference)) :
    countFile disk charset reference =
      Journal.fail (.disk (.refused .tooLong (pathOf reference).toText)) := by
  have noAnswer := Disk.isFile_of_refusesPath refused
  rw [pathOf] at noAnswer
  simp only [countFile, countFileBy, noAnswer]
  rfl

/-- What is no file gets a record without lines and a warning. -/
theorem countFile_of_noBody
    (taken : ¬ disk.RefusesPath (pathOf reference))
    (noBody : disk.body? (pathOf reference) = none) :
    countFile disk charset reference =
      ⟨[notFound reference.toText], .ok (.empty reference.toText)⟩ := by
  have answer := Disk.isFile_of_not_refusesPath taken
  rw [noBody, pathOf] at answer
  simp only [countFile, countFileBy, answer]
  rfl

/-- A file is read if there is no NUL among its first bytes, and passed over otherwise. -/
theorem readText_of_content
    {policy : Text}
    {path : Path}
    (found : disk.content? path = some content) :
    readText disk charset policy path =
      if hasNul (some sampleSize) content then
        ⟨[passedOver path], .ok []⟩
      else
        Journal.ofExcept (textOf charset policy path.toText content) := by
  have isBody := Disk.content?_eq_some_iff.mp found
  have answer := Disk.isFile_of_not_refusesPath (Disk.not_refusesPath_of_body? isBody)
  have bytes := Disk.read_of_content? found
  rw [isBody] at answer
  simp only [readText, textBytes?, answer, isBinary, bytes]
  cases hasNul (some sampleSize) content <;> rfl

/-- A file that the disk does not give away cannot be read, and does not count as binary. -/
theorem readText_of_refused
    {policy : Text}
    {path : Path}
    {error : DiskError}
    (found : disk.body? path = some (.refused error)) :
    readText disk charset policy path =
      Journal.fail (.unreadable path.toText (.disk (.refused error path.toText))) := by
  have answer := Disk.isFile_of_not_refusesPath (Disk.not_refusesPath_of_body? found)
  have noBytes := Disk.read_of_body? found
  rw [found] at answer
  simp only [readText, textBytes?, answer, isBinary, noBytes]
  rfl

/-- Once a file is there, its record follows from the attempt to read it. -/
theorem countFile_of_body
    {body : FileBody}
    (found : disk.body? (pathOf reference) = some body) :
    countFile disk charset reference =
      (Journal.attempt (readText disk charset strayPolicy (pathOf reference)) >>= fun read =>
        match read with
        | .ok text =>
            ⟨[counted ⟨reference.toText, .ofText text⟩],
              .ok ⟨reference.toText, .ofText text⟩⟩
        | .error fault =>
            if fault.isOwn then
              ⟨[notOpened reference.toText fault], .ok (.empty reference.toText)⟩
            else
              Journal.fail fault) := by
  have answer := Disk.isFile_of_not_refusesPath (Disk.not_refusesPath_of_body? found)
  rw [found, pathOf] at answer
  simp only [countFile, countFileBy, answer, Journal.ofDisk_ok, pure_bind]
  refine congrArg (Bind.bind _) (funext fun read => ?_)
  cases read with
  | ok text =>
      rfl
  | error fault =>
      simp only
      split_ifs <;> rfl

/-- A file that cannot be read gets a record without lines and a warning that says why. -/
theorem countFile_of_refused
    {error : DiskError}
    (found : disk.body? (pathOf reference) = some (.refused error)) :
    countFile disk charset reference =
      ⟨[notOpened reference.toText
          (.unreadable (pathOf reference).toText
            (.disk (.refused error (pathOf reference).toText)))],
        .ok (.empty reference.toText)⟩ := by
  rw [countFile_of_body found, readText_of_refused found]
  rfl

/-- A binary file gets a record without lines and no warning. -/
theorem countFile_of_nul
    (found : disk.content? (pathOf reference) = some content)
    (nul : hasNul (some sampleSize) content = true) :
    countFile disk charset reference =
      ⟨[passedOver (pathOf reference), counted (.empty reference.toText)],
        .ok (.empty reference.toText)⟩ := by
  rw [countFile_of_body (Disk.content?_eq_some_iff.mp found), readText_of_content found,
    if_pos nul]
  rfl

/-- A file that can be decoded gets the counts of its text. -/
theorem countFile_of_text
    {text : Text}
    (found : disk.content? (pathOf reference) = some content)
    (noNul : hasNul (some sampleSize) content = false)
    (decoded :
      textOf charset strayPolicy (pathOf reference).toText content = .ok text) :
    countFile disk charset reference =
      ⟨[counted ⟨reference.toText, .ofText text⟩],
        .ok ⟨reference.toText, .ofText text⟩⟩ := by
  rw [countFile_of_body (Disk.content?_eq_some_iff.mp found), readText_of_content found,
    noNul, decoded]
  rfl

/-- A file with a fault of the program's own gets a record without lines and a warning. -/
theorem countFile_of_ownFault
    {fault : Fault}
    (found : disk.content? (pathOf reference) = some content)
    (noNul : hasNul (some sampleSize) content = false)
    (failed :
      textOf charset strayPolicy (pathOf reference).toText content = .error fault)
    (own : fault.isOwn = true) :
    countFile disk charset reference =
      ⟨[notOpened reference.toText fault], .ok (.empty reference.toText)⟩ := by
  rw [countFile_of_body (Disk.content?_eq_some_iff.mp found), readText_of_content found,
    noNul, failed]
  simp [Journal.attempt, Journal.ofExcept, Journal.ok_bind, own]

/-- Counting fails with every other fault in decoding. -/
theorem countFile_of_otherFault
    {fault : Fault}
    (found : disk.content? (pathOf reference) = some content)
    (noNul : hasNul (some sampleSize) content = false)
    (failed :
      textOf charset strayPolicy (pathOf reference).toText content = .error fault)
    (other : fault.isOwn = false) :
    countFile disk charset reference = Journal.fail fault := by
  rw [countFile_of_body (Disk.content?_eq_some_iff.mp found), readText_of_content found,
    noNul, failed]
  simp [Journal.attempt, Journal.ofExcept, Journal.ok_bind, Journal.fail, other]

/-- A record that a file gets is under its name, and has the counts of a text or no lines. -/
theorem record_of_countFile
    {record : FileRecord}
    (counted : (countFile disk charset reference).result = .ok record) :
    ¬ disk.RefusesPath (pathOf reference) ∧
      (record = .empty reference.toText ∨
        ∃ text, record = ⟨reference.toText, .ofText text⟩) := by
  by_cases refused : disk.RefusesPath (pathOf reference)
  · rw [countFile_of_refusesPath refused] at counted
    cases counted
  refine ⟨refused, ?_⟩
  cases found : disk.body? (pathOf reference) with
  | none =>
      rw [countFile_of_noBody refused found] at counted
      exact .inl (Except.ok.inj counted).symm
  | some body =>
      rw [countFile_of_body found, Journal.result_bind] at counted
      simp only [Journal.attempt, Except.bind] at counted
      split at counted
      next text _ =>
        exact .inr ⟨text, (Except.ok.inj counted).symm⟩
      next fault _ =>
        split_ifs at counted
        · exact .inl (Except.ok.inj counted).symm
        · cases counted

/-- The record that a file gets is under the name it was asked for. -/
theorem path_of_countFile
    {record : FileRecord}
    (counted : (countFile disk charset reference).result = .ok record) :
    record.path = reference.toText := by
  rcases (record_of_countFile counted).2 with rfl | ⟨text, rfl⟩ <;> rfl

end Outcomes

/-- A batch of which every file has a record has these records, and the notes in order. -/
theorem countFiles_of_records
    {disk : Disk}
    {charset : Text}
    {references : List FileRef}
    {outcomes : List (FileRecord × List Note)}
    (each :
      List.Forall₂
        (fun reference outcome =>
          countFile disk charset reference = ⟨outcome.2, .ok outcome.1⟩)
        references outcomes) :
    countFiles disk charset references =
      ⟨outcomes.flatMap Prod.snd, .ok (outcomes.map Prod.fst)⟩ := by
  induction each with
  | nil =>
      rfl
  | cons first _ inductionHypothesis =>
      rw [countFiles, first, inductionHypothesis]
      simp [Journal.ok_bind, pure, Journal.pure]

/-- The records of a batch are the record of its first file and those of the rest. -/
theorem countFiles_cons_result
    (disk : Disk)
    (charset : Text)
    (reference : FileRef)
    (rest : List FileRef) :
    (countFiles disk charset (reference :: rest)).result =
      (countFile disk charset reference).result.bind fun record =>
        (countFiles disk charset rest).result.map (record :: ·) := by
  rw [countFiles, Journal.result_bind]
  congr
  funext record
  rw [Journal.result_bind]
  cases (countFiles disk charset rest).result <;> rfl

/-- A record of a batch is that of one of its files, whose notes are among those of the batch. -/
theorem exists_countFile_of_mem
    {disk : Disk}
    {charset : Text}
    {references : List FileRef}
    {records : Tally}
    (counted : (countFiles disk charset references).result = .ok records)
    {record : FileRecord}
    (member : record ∈ records) :
    ∃ reference ∈ references,
      (countFile disk charset reference).result = .ok record ∧
        (countFile disk charset reference).notes ⊆ (countFiles disk charset references).notes := by
  induction references generalizing records with
  | nil =>
      cases counted
      cases member
  | cons reference rest inductionHypothesis =>
      have notesBelow {note : Note} :=
        @Journal.mem_notes_bind _ _ (countFile disk charset reference)
          (fun record => do
            let records ← countFiles disk charset rest
            return record :: records) note
      rw [countFiles_cons_result] at counted
      obtain ⟨first, firstCounted, later⟩ := Except.bind_eq_ok_iff.mp counted
      cases others : (countFiles disk charset rest).result with
      | error fault =>
          rw [others] at later
          cases later
      | ok more =>
          rw [others] at later
          cases later
          rcases List.mem_cons.mp member with rfl | inRest
          · refine ⟨reference, List.mem_cons_self, firstCounted, ?_⟩
            intro note noted
            exact notesBelow.mpr (.inl noted)
          · obtain ⟨other, isOther, otherCounted, subset⟩ := inductionHypothesis others inRest
            refine ⟨other, List.mem_cons_of_mem _ isOther, otherCounted, ?_⟩
            intro note noted
            exact notesBelow.mpr
              (.inr ⟨first, firstCounted, Journal.mem_notes_bind.mpr (.inl (subset noted))⟩)

end LineTally.Counting
