import LineTally.Proofs.Charset.Known
import LineTally.Proofs.Disk.Writing
import LineTally.Proofs.Run.CountFile

namespace LineTally.Counting

/-!
# Batches of UTF-8 files

A batch has one record for each file, in the order of the batch.  A record is what
its own file calls for, whatever else is in the batch or on the disk.
-/

/-- The charset of files that nothing is said about. -/
def usualCharset : Text := "utf-8".toList

/--
The record and the notes of a file are what is there calls for: no lines and one warning if
there is no file or if it cannot be read, no lines for a binary file, and the counts of the
text otherwise, from which undecodable bytes are dropped and whose line ends are unified.
-/
structure IsExact
    (disk : Disk)
    (reference : FileRef)
    (record : FileRecord)
    (notes : List Note) :
    Prop where
  path : record.path = reference.toText
  warned :
    record.counts = .zero ∧ (warnings notes).length = 1 ↔
      disk.body? (pathOf reference) = none ∨
        ∃ error, disk.body? (pathOf reference) = some (.refused error)
  missing :
    disk.body? (pathOf reference) = none → warnings notes = [notFound reference.toText]
  refused :
    ∀ error, disk.body? (pathOf reference) = some (.refused error) →
      warnings notes =
        [notOpened reference.toText
          (.unreadable (pathOf reference).toText
            (.disk (.refused error (pathOf reference).toText)))]
  binary :
    ∀ content, disk.content? (pathOf reference) = some content →
      0 ∈ content.take 1024 →
      record.counts = .zero ∧ warnings notes = []
  text :
    ∀ content, disk.content? (pathOf reference) = some content →
      0 ∉ content.take 1024 →
      ∃ text, Utf8.Leaves content text ∧
        record.counts = .ofText text.unifyLineEnds ∧ warnings notes = []

/-- What counting a batch gives: a record and notes for each file, all of them in order. -/
structure Yields
    (disk : Disk)
    (references : List FileRef)
    (outcomes : List (FileRecord × List Note)) :
    Prop where
  each :
    List.Forall₂
      (fun reference outcome =>
        countFile disk usualCharset reference = ⟨outcome.2, .ok outcome.1⟩)
      references outcomes
  batch :
    countFiles disk usualCharset references =
      ⟨outcomes.flatMap Prod.snd, .ok (outcomes.map Prod.fst)⟩

/-- Two outcomes of a batch are the same but for the files whose paths lead to some names. -/
def SameBut
    (disk : Disk)
    (references : List FileRef)
    (edited : List Text)
    (outcomes laterOutcomes : List (FileRecord × List Note)) :
    Prop :=
  ∀ (place : Nat) (reference : FileRef), references[place]? = some reference →
    disk.place? (pathOf reference) ≠ some edited →
    laterOutcomes[place]? = outcomes[place]?

/-- The text of a UTF-8 file is what its bytes leave, with the line ends unified. -/
theorem textOf_usualCharset
    (path : Text)
    (content : List UInt8) :
    textOf usualCharset strayPolicy path content =
      .ok (Utf8.legible content).unifyLineEnds := by
  have known := Charset.ofTextName_of_ofName? Charset.lookups.1 nofun
  have decoded := @decodeNamed_strayPolicy usualCharset (by decide) content
  rw [usualCharset, known] at decoded
  rw [textOf, usualCharset, decoded]
  simp only [Except.bind, Charset.decode_utf8_ignore]

/-- Unless the disk refuses its path, counting a UTF-8 file gives an exact record. -/
theorem countFile_isExact
    {disk : Disk}
    {reference : FileRef}
    (taken : ¬ disk.RefusesPath (pathOf reference)) :
    ∃ record notes,
      countFile disk usualCharset reference = ⟨notes, .ok record⟩ ∧
        IsExact disk reference record notes := by
  cases found : disk.body? (pathOf reference) with
  | none =>
      have counted := @countFile_of_noBody disk usualCharset reference taken found
      refine ⟨_, _, counted, ?_⟩
      constructor <;> simp [found, Disk.content?_eq_some_iff, warnings, notFound, FileRecord.empty]
  | some body =>
      cases body with
      | refused error =>
          refine ⟨_, _, countFile_of_refused found, ?_⟩
          constructor <;>
            simp [found, Disk.content?_eq_some_iff, warnings, notOpened, FileRecord.empty]
      | bytes content =>
          have isContent := Disk.content?_eq_some_iff.mpr found
          by_cases nul : 0 ∈ content.take 1024
          · refine ⟨_, _, countFile_of_nul isContent (hasNul_sample_iff.mpr nul), ?_⟩
            constructor <;>
              simp [found, isContent, nul, warnings, passedOver, counted, FileRecord.empty]
          · have noNul := hasNul_sample_eq_false nul
            have decoded := textOf_usualCharset (pathOf reference).toText content
            refine ⟨_, _, countFile_of_text isContent noNul decoded, ?_⟩
            constructor <;>
              simp [found, isContent, nul, warnings, counted, Utf8.leaves_iff]

/-- What is counted of a file follows from the file alone that is there. -/
theorem countFile_congr
    {disk other : Disk}
    {reference : FileRef}
    (charset : Text)
    (taken : ¬ disk.RefusesPath (pathOf reference))
    (otherTaken : ¬ other.RefusesPath (pathOf reference))
    (same : other.body? (pathOf reference) = disk.body? (pathOf reference)) :
    countFile other charset reference = countFile disk charset reference := by
  cases found : disk.body? (pathOf reference) with
  | none =>
      rw [countFile_of_noBody taken found, countFile_of_noBody otherTaken (same.trans found)]
  | some body =>
      have foundToo := same.trans found
      cases body with
      | refused error =>
          rw [countFile_of_refused found, countFile_of_refused foundToo]
      | bytes content =>
          rw [countFile_of_body found, countFile_of_body foundToo,
            readText_of_content (Disk.content?_eq_some_iff.mpr found),
            readText_of_content (Disk.content?_eq_some_iff.mpr foundToo)]

/-- A batch of which the disk refuses no path yields an exact record for each file. -/
theorem exists_yields
    {disk : Disk}
    {references : List FileRef}
    (taken : ∀ reference ∈ references, ¬ disk.RefusesPath (pathOf reference)) :
    ∃ outcomes,
      Yields disk references outcomes ∧
        List.Forall₂ (fun reference outcome => IsExact disk reference outcome.1 outcome.2)
          references outcomes := by
  have each :
      ∃ outcomes : List (FileRecord × List Note),
        List.Forall₂
          (fun reference outcome =>
            countFile disk usualCharset reference = ⟨outcome.2, .ok outcome.1⟩ ∧
              IsExact disk reference outcome.1 outcome.2)
          references outcomes := by
    induction references with
    | nil =>
        exact ⟨[], .nil⟩
    | cons reference rest inductionHypothesis =>
        obtain ⟨record, notes, counted, exact⟩ :=
          countFile_isExact (taken reference (by simp))
        obtain ⟨outcomes, later⟩ :=
          inductionHypothesis fun other member => taken other (by simp [member])
        exact ⟨(record, notes) :: outcomes, .cons ⟨counted, exact⟩ later⟩
  obtain ⟨outcomes, each⟩ := each
  have counted := each.imp fun _ _ both => both.1
  exact
    ⟨outcomes, ⟨counted, countFiles_of_records counted⟩, each.imp fun _ _ both => both.2⟩

namespace Yields

variable
  {disk : Disk}
  {references : List FileRef}
  {outcomes : List (FileRecord × List Note)}

/-- At each place of a batch stands what counting the file at this place gives. -/
theorem countFile_eq
    (yields : Yields disk references outcomes)
    {place : Nat}
    {reference : FileRef}
    (present : references[place]? = some reference) :
    ∃ outcome, outcomes[place]? = some outcome ∧
      countFile disk usualCharset reference = ⟨outcome.2, .ok outcome.1⟩ := by
  obtain ⟨sameLength, atEach⟩ := List.forall₂_iff_get.mp yields.each
  obtain ⟨inside, rfl⟩ := List.getElem?_eq_some_iff.mp present
  have outcomeInside : place < outcomes.length := sameLength ▸ inside
  exact ⟨_, List.getElem?_eq_getElem outcomeInside, atEach place inside outcomeInside⟩

/-- A batch that yields records has no path that the disk refuses. -/
theorem not_refusesPath
    (yields : Yields disk references outcomes)
    {place : Nat}
    {reference : FileRef}
    (present : references[place]? = some reference) :
    ¬ disk.RefusesPath (pathOf reference) := by
  intro refused
  obtain ⟨outcome, _, counted⟩ := yields.countFile_eq present
  rw [countFile_of_refusesPath refused] at counted
  cases congrArg Journal.result counted

/-- A path with the same file has the same outcome on another disk. -/
theorem outcome_congr
    (yields : Yields disk references outcomes)
    {other : Disk}
    {otherOutcomes : List (FileRecord × List Note)}
    (otherYields : Yields other references otherOutcomes)
    {place : Nat}
    {reference : FileRef}
    (present : references[place]? = some reference)
    (same : other.body? (pathOf reference) = disk.body? (pathOf reference)) :
    otherOutcomes[place]? = outcomes[place]? := by
  obtain ⟨outcome, atPlace, counted⟩ := yields.countFile_eq present
  obtain ⟨otherOutcome, otherAtPlace, otherCounted⟩ := otherYields.countFile_eq present
  have agree :=
    countFile_congr usualCharset (yields.not_refusesPath present)
      (otherYields.not_refusesPath present) same
  rw [counted, otherCounted] at agree
  rw [atPlace, otherAtPlace]
  obtain ⟨record, notes⟩ := outcome
  obtain ⟨otherRecord, otherNotes⟩ := otherOutcome
  cases agree
  rfl

/-- A batch yields the same for every file that is spared when files are edited. -/
theorem of_editsFiles
    (yields : Yields disk references outcomes)
    {later : Disk}
    (edits : disk.EditsFiles later) :
    ∃ laterOutcomes : List (FileRecord × List Note),
      Yields later references laterOutcomes ∧
        ∀ (place : Nat) (reference : FileRef), references[place]? = some reference →
          (∀ names, disk.place? (pathOf reference) = some names →
            later.root.bodyAt? names = disk.root.bodyAt? names) →
          laterOutcomes[place]? = outcomes[place]? := by
  have laterTaken : ∀ reference ∈ references, ¬ later.RefusesPath (pathOf reference) := by
    intro reference member refused
    obtain ⟨place, present⟩ := List.mem_iff_getElem?.mp member
    exact yields.not_refusesPath present ((edits.refusesPath_iff _).mp refused)
  obtain ⟨laterOutcomes, laterYields, _⟩ := exists_yields laterTaken
  refine ⟨laterOutcomes, laterYields, ?_⟩
  intro place reference present spared
  exact yields.outcome_congr laterYields present (edits.body?_eq spared)

/-- A batch yields the same for every file but the one that is edited. -/
theorem of_editsFile
    (yields : Yields disk references outcomes)
    {later : Disk}
    {edited : List Text}
    (here : later.here = disk.here)
    (edits : Node.EditsFile edited disk.root later.root) :
    ∃ laterOutcomes : List (FileRecord × List Note),
      Yields later references laterOutcomes ∧
        SameBut disk references edited outcomes laterOutcomes := by
  obtain ⟨laterOutcomes, laterYields, same⟩ :=
    yields.of_editsFiles ⟨here, edits.editsFiles⟩
  refine ⟨laterOutcomes, laterYields, ?_⟩
  intro place reference present elsewhere
  apply same place reference present
  intro names leads
  have notEdited : names ≠ edited := by
    rintro rfl
    exact elsewhere leads
  rw [Node.bodyAt?, Node.bodyAt?, edits.elsewhere names notEdited]

/-- To write a file changes the outcome of no file at another place. -/
theorem of_write
    (yields : Yields disk references outcomes)
    {later : Disk}
    {path : Path}
    {content : List UInt8}
    (hereIsFolder : disk.root.shapeAt? disk.here = some .folder)
    (written : disk.write path content = .ok later) :
    ∃ target laterOutcomes,
      disk.resolveFor .create path = .ok target ∧
        Yields later references laterOutcomes ∧
        SameBut disk references target.names outcomes laterOutcomes := by
  obtain ⟨target, resolved, here, edits⟩ :=
    Disk.editsFile_of_write (Disk.shapeAt?_start hereIsFolder path) written
  obtain ⟨laterOutcomes, laterYields, same⟩ := yields.of_editsFile here edits
  exact ⟨target, laterOutcomes, resolved, laterYields, same⟩

/-- To remove a file changes the outcome of no file at another place. -/
theorem of_remove
    (yields : Yields disk references outcomes)
    {later : Disk}
    {path : Path}
    (isFile : disk.root.FileOrNothing (disk.placeOf path))
    (removed : disk.remove path = .ok later) :
    ∃ laterOutcomes : List (FileRecord × List Note),
      Yields later references laterOutcomes ∧
        SameBut disk references (disk.placeOf path) outcomes laterOutcomes := by
  obtain ⟨here, edits⟩ := Disk.editsFile_of_remove isFile removed
  exact yields.of_editsFile here edits

/-- The outcomes of two batches, one after the other, are those of both in one. -/
theorem split
    {first second : List FileRef}
    (yields : Yields disk (first ++ second) outcomes) :
    ∃ firstOutcomes secondOutcomes,
      Yields disk first firstOutcomes ∧ Yields disk second secondOutcomes ∧
        outcomes = firstOutcomes ++ secondOutcomes := by
  have firstEach := List.forall₂_take first.length yields.each
  have secondEach := List.forall₂_drop first.length yields.each
  rw [List.take_left] at firstEach
  rw [List.drop_left] at secondEach
  exact
    ⟨outcomes.take first.length, outcomes.drop first.length,
      ⟨firstEach, countFiles_of_records firstEach⟩,
      ⟨secondEach, countFiles_of_records secondEach⟩,
      (List.take_append_drop first.length outcomes).symm⟩

end Yields

/--
Unless the disk refuses one of the paths, a batch of UTF-8 files has one exact record
for each path, in order.  A record depends on its own file only: no edit of files elsewhere
changes it, be it that one is made, filled anew or removed, and neither does what else is in
the batch.
-/
theorem countFiles_exact_independent
    {disk : Disk}
    {references : List FileRef}
    (answers :
      ∀ reference ∈ references, ∃ answer, disk.isFile (pathOf reference) = .ok answer) :
    ∃ outcomes : List (FileRecord × List Note),
      Yields disk references outcomes ∧
      List.Forall₂ (fun reference outcome => IsExact disk reference outcome.1 outcome.2)
        references outcomes ∧
      (∀ (other : Disk) (otherOutcomes : List (FileRecord × List Note)),
        Yields other references otherOutcomes →
        ∀ (place : Nat) (reference : FileRef), references[place]? = some reference →
          other.body? (pathOf reference) = disk.body? (pathOf reference) →
          otherOutcomes[place]? = outcomes[place]?) ∧
      (∀ later : Disk, disk.EditsFiles later →
        ∃ laterOutcomes : List (FileRecord × List Note),
          Yields later references laterOutcomes ∧
          ∀ (place : Nat) (reference : FileRef), references[place]? = some reference →
            (∀ names, disk.place? (pathOf reference) = some names →
              later.root.bodyAt? names = disk.root.bodyAt? names) →
            laterOutcomes[place]? = outcomes[place]?) ∧
      (∀ (path : Path) (content : List UInt8) (later : Disk),
        disk.root.shapeAt? disk.here = some .folder →
        disk.write path content = .ok later →
        ∃ target laterOutcomes,
          disk.resolveFor .create path = .ok target ∧
            Yields later references laterOutcomes ∧
            SameBut disk references target.names outcomes laterOutcomes) ∧
      (∀ (path : Path) (later : Disk),
        disk.root.FileOrNothing (disk.placeOf path) →
        disk.remove path = .ok later →
        ∃ laterOutcomes,
          Yields later references laterOutcomes ∧
            SameBut disk references (disk.placeOf path) outcomes laterOutcomes) ∧
      (∀ first second, references = first ++ second →
        ∃ firstOutcomes secondOutcomes,
          Yields disk first firstOutcomes ∧ Yields disk second secondOutcomes ∧
            outcomes = firstOutcomes ++ secondOutcomes) := by
  have taken : ∀ reference ∈ references, ¬ disk.RefusesPath (pathOf reference) :=
    fun reference member => Disk.isFile_answers_iff.mp (answers reference member)
  obtain ⟨outcomes, yields, exact⟩ := exists_yields taken
  refine ⟨outcomes, yields, exact, ?_, ?_, ?_, ?_, ?_⟩
  · intro other otherOutcomes otherYields place reference present same
    exact yields.outcome_congr otherYields present same
  · intro later edits
    exact yields.of_editsFiles edits
  · intro path content later hereIsFolder written
    exact yields.of_write hereIsFolder written
  · intro path later isFile removed
    exact yields.of_remove isFile removed
  · rintro first second rfl
    exact yields.split

/-- A disk with a file in its working folder, and a link to a folder that is not there. -/
def smallDisk : Disk :=
  ⟨.folder
    [ ("a.m".toList, .file (.bytes [0x78, 0x3D, 0x31, 0x3B, 0x0A])),
      ("gone".toList, .link "nowhere/b.m".toList) ],
    []⟩

/-- Of a file and a dangling link, the file has its one line and the link has a warning. -/
theorem countFiles_exact_independent_of_two :
    ∃ fileNotes linkNotes,
      countFiles smallDisk usualCharset [.ofText "a.m".toList, .ofText "gone".toList] =
          ⟨fileNotes ++ linkNotes,
            .ok [⟨"a.m".toList, ⟨1, 0, 0, 1⟩⟩, ⟨"gone".toList, ⟨0, 0, 0, 0⟩⟩]⟩ ∧
        warnings fileNotes = [] ∧
        warnings linkNotes = [notFound "gone".toList] := by
  obtain ⟨outcomes, yields, exact, -⟩ :=
    @countFiles_exact_independent smallDisk [.ofText "a.m".toList, .ofText "gone".toList]
      (by
        intro reference member
        rcases List.mem_pair.mp member with rfl | rfl
        · exact ⟨true, by decide +kernel⟩
        · exact ⟨false, by decide +kernel⟩)
  obtain ⟨hasText, hasNothing⟩ :
      smallDisk.content? (pathOf (.ofText "a.m".toList)) =
          some [0x78, 0x3D, 0x31, 0x3B, 0x0A] ∧
        smallDisk.body? (pathOf (.ofText "gone".toList)) = none := by
    decide +kernel
  cases exact with
  | @cons _ file _ _ fileExact rest =>
      cases rest with
      | @cons _ link _ _ linkExact none =>
          cases none
          obtain ⟨text, leaves, counts, noWarning⟩ := fileExact.text _ hasText (by decide)
          have isText : text = "x=1;\n".toList := by
            rw [Utf8.leaves_iff.mp leaves]
            decide +kernel
          have isFile : file.1 = ⟨"a.m".toList, ⟨1, 0, 0, 1⟩⟩ := by
            rw [FileRecord.mk.injEq]
            refine ⟨fileExact.path, ?_⟩
            rw [counts, isText]
            decide +kernel
          have isLink : link.1 = ⟨"gone".toList, ⟨0, 0, 0, 0⟩⟩ := by
            rw [FileRecord.mk.injEq]
            exact ⟨linkExact.path, (linkExact.warned.mpr (.inl hasNothing)).1⟩
          refine ⟨file.2, link.2, ?_, noWarning, linkExact.missing hasNothing⟩
          rw [yields.batch, ← isFile, ← isLink]
          simp

/-- A disk with a file that may not be opened. -/
def lockedDisk : Disk :=
  ⟨.folder [("a.m".toList, .file (.refused .denied))], []⟩

/-- A regular file gets a record without lines and a warning, too, if it cannot be opened. -/
theorem countFiles_lockedDisk :
    lockedDisk.isFile (pathOf (.ofText "a.m".toList)) = .ok true ∧
      (countFiles lockedDisk usualCharset [.ofText "a.m".toList]).result =
        .ok [⟨"a.m".toList, .zero⟩] ∧
      (warnings (countFiles lockedDisk usualCharset [.ofText "a.m".toList]).notes).length = 1 := by
  decide +kernel

end LineTally.Counting
