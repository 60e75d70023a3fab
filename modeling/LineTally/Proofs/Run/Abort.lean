import LineTally.Proofs.Charset.Known
import LineTally.Proofs.Run.CountFile

namespace LineTally.Counting

/-!
# What ends a batch

A file that is not there, that cannot be read, or that a charset of no text is to be
read with, is reported and counted as empty.  Two other problems are not: a path that
the disk refuses, since it is asked before anything is tried, and bytes on which the
charset fails although stray ones are left out.  Either of them ends the batch.
-/

/-- A file that ends the batch it is in. -/
inductive Aborts
    (disk : Disk)
    (charset : Charset)
    (reference : FileRef) :
    Prop where
  | path
      (refused : disk.RefusesPath (pathOf reference))
  | bytes
      {content : List UInt8}
      (found : disk.content? (pathOf reference) = some content)
      (noNul : 0 ∉ content.take 1024)
      (refused : charset.Refuses content)

/-- A file that is reported, and counted as empty. -/
inductive IsReported
    (disk : Disk)
    (charset : Charset)
    (reference : FileRef) :
    Prop where
  | missing
      (taken : ¬ disk.RefusesPath (pathOf reference))
      (noBody : disk.body? (pathOf reference) = none)
  | unreadable
      {error : DiskError}
      (found : disk.body? (pathOf reference) = some (.refused error))
  | notText
      {content : List UInt8}
      (found : disk.content? (pathOf reference) = some content)
      (noNul : 0 ∉ content.take 1024)
      (transforms : charset = .transform)

/-- What becomes of a file: it ends its batch, or it is reported, or it is just counted. -/
inductive Fate
    (disk : Disk)
    (name : Text)
    (charset : Charset)
    (reference : FileRef) :
    Prop where
  | aborts
      (fault : Fault)
      (aborts : Aborts disk charset reference)
      (notOwn : fault.isOwn = false)
      (counted : countFile disk name reference = Journal.fail fault)
  | reported
      (warning : Note)
      (completes : ¬ Aborts disk charset reference)
      (reported : IsReported disk charset reference)
      (isWarning : warning.level = .warning)
      (counted :
        countFile disk name reference = ⟨[warning], .ok (.empty reference.toText)⟩)
  | counted
      (counts : Counts)
      (notes : List Note)
      (completes : ¬ Aborts disk charset reference)
      (unreported : ¬ IsReported disk charset reference)
      (unwarned : warnings notes = [])
      (counted : countFile disk name reference = ⟨notes, .ok ⟨reference.toText, counts⟩⟩)

/-- No file that is reported ends its batch. -/
theorem IsReported.not_aborts
    {disk : Disk}
    {charset : Charset}
    {reference : FileRef}
    (reported : IsReported disk charset reference) :
    ¬ Aborts disk charset reference := by
  rintro (pathRefused | ⟨found, _, refused⟩)
  · cases reported with
    | missing taken =>
        exact taken pathRefused
    | unreadable found =>
        exact Disk.not_refusesPath_of_body? found pathRefused
    | notText found =>
        exact Disk.not_refusesPath_of_body? (Disk.content?_eq_some_iff.mp found) pathRefused
  · have isBody := Disk.content?_eq_some_iff.mp found
    cases reported with
    | missing _ noBody =>
        cases isBody.symm.trans noBody
    | unreadable unread =>
        cases isBody.symm.trans unread
    | notText _ _ transforms =>
        subst transforms
        exact refused

section Known

variable
  {disk : Disk}
  {name : Text}
  {charset : Charset}
  {reference : FileRef}
  {content : List UInt8}

/-- A file of text either ends its batch or is counted, as its bytes are refused or not. -/
theorem fate_of_text
    (noNulInName : '\x00' ∉ name)
    (known : Charset.ofName? name = some charset)
    (isText : charset ≠ .transform)
    (found : disk.content? (pathOf reference) = some content)
    (noNul : 0 ∉ content.take 1024) :
    Fate disk name charset reference := by
  have notBinary := hasNul_sample_eq_false noNul
  have decoding := decodeNamed_strayPolicy noNulInName content
  rw [Charset.ofTextName_of_ofName? known isText] at decoding
  rcases Charset.decode_ignore isText content with
    ⟨text, decoded, taken⟩ | ⟨fault, failed, passedOn, refused⟩
  · have read :
        textOf name strayPolicy (pathOf reference).toText content = .ok text.unifyLineEnds := by
      rw [textOf, decoding]
      simp only [Except.bind, decoded]
    have isBody := Disk.content?_eq_some_iff.mp found
    refine .counted _ _ ?_ ?_ rfl (countFile_of_text found notBinary read)
    · rintro (pathRefused | ⟨otherFound, _, refused⟩)
      · exact Disk.not_refusesPath_of_body? isBody pathRefused
      · cases found.symm.trans otherFound
        exact taken refused
    · rintro (⟨_, noBody⟩ | unread | ⟨_, _, transforms⟩)
      · cases isBody.symm.trans noBody
      · cases isBody.symm.trans unread
      · exact isText transforms
  · have read :
        textOf name strayPolicy (pathOf reference).toText content = .error (.decode fault) := by
      rw [textOf, decoding]
      simp [Except.bind, failed, passedOn]
    exact .aborts _ (.bytes found noNul refused) rfl
      (countFile_of_otherFault found notBinary read rfl)

/-- A file that a charset of no text is to be read with is reported. -/
theorem fate_of_transform
    (noNulInName : '\x00' ∉ name)
    (known : Charset.ofName? name = some .transform)
    (found : disk.content? (pathOf reference) = some content)
    (noNul : 0 ∉ content.take 1024) :
    Fate disk name .transform reference := by
  have notBinary := hasNul_sample_eq_false noNul
  have decoding := decodeNamed_strayPolicy noNulInName content
  rw [Charset.ofTextName_of_transform known] at decoding
  have read :
      textOf name strayPolicy (pathOf reference).toText content =
        .error (.unreadable (pathOf reference).toText (.decode (.notText name))) := by
    rw [textOf, decoding]
    rfl
  have reported : IsReported disk .transform reference := .notText found noNul rfl
  exact
    .reported _ reported.not_aborts reported rfl
      (countFile_of_ownFault found notBinary read rfl)

/-- Every file has a fate. -/
theorem fate_of_known
    (noNulInName : '\x00' ∉ name)
    (known : Charset.ofName? name = some charset)
    (disk : Disk)
    (reference : FileRef) :
    Fate disk name charset reference := by
  by_cases refused : disk.RefusesPath (pathOf reference)
  · exact .aborts _ (.path refused) rfl (countFile_of_refusesPath refused)
  cases isBody : disk.body? (pathOf reference) with
  | none =>
      have reported : IsReported disk charset reference := .missing refused isBody
      exact .reported _ reported.not_aborts reported rfl (countFile_of_noBody refused isBody)
  | some body =>
    cases body with
    | refused error =>
      have reported : IsReported disk charset reference := .unreadable isBody
      exact .reported _ reported.not_aborts reported rfl (countFile_of_refused isBody)
    | bytes content =>
      have found := Disk.content?_eq_some_iff.mpr isBody
      by_cases nul : 0 ∈ content.take 1024
      · refine .counted _ _ ?_ ?_ rfl (countFile_of_nul found (hasNul_sample_iff.mpr nul))
        · rintro (pathRefused | ⟨otherFound, noNul, _⟩)
          · exact refused pathRefused
          · cases found.symm.trans otherFound
            exact noNul nul
        · rintro (⟨_, noBody⟩ | unread | ⟨otherFound, noNul, _⟩)
          · cases isBody.symm.trans noBody
          · cases isBody.symm.trans unread
          · cases found.symm.trans otherFound
            exact noNul nul
      · by_cases transforms : charset = .transform
        · subst transforms
          exact fate_of_transform noNulInName known found nul
        · exact fate_of_text noNulInName known transforms found nul

/-- A file that does not end its batch has a record under the name it was asked for. -/
theorem Fate.record
    (fate : Fate disk name charset reference)
    (completes : ¬ Aborts disk charset reference) :
    ∃ record notes,
      countFile disk name reference = ⟨notes, .ok record⟩ ∧
        record.path = reference.toText := by
  cases fate with
  | aborts fault aborts =>
      exact (completes aborts).elim
  | reported warning _ _ _ counted =>
      exact ⟨_, _, counted, rfl⟩
  | counted counts notes _ _ _ counted =>
      exact ⟨_, _, counted, rfl⟩

/-- A file that ends its batch does so with a fault that is passed on as it is. -/
theorem Fate.fault
    (fate : Fate disk name charset reference)
    (aborts : Aborts disk charset reference) :
    ∃ fault, fault.isOwn = false ∧
      countFile disk name reference = Journal.fail fault := by
  cases fate with
  | aborts fault _ notOwn counted =>
      exact ⟨fault, notOwn, counted⟩
  | reported _ completes =>
      exact (completes aborts).elim
  | counted _ _ completes =>
      exact (completes aborts).elim

/-- A batch without a file that ends it has a record for each of its paths. -/
theorem countFiles_completes
    {references : List FileRef}
    (fates : ∀ reference ∈ references, Fate disk name charset reference)
    (completes : ∀ reference ∈ references, ¬ Aborts disk charset reference) :
    ∃ records, (countFiles disk name references).result = .ok records ∧
      records.map FileRecord.path = references.map FileRef.toText := by
  induction references with
  | nil =>
      exact ⟨[], rfl, rfl⟩
  | cons reference rest inductionHypothesis =>
      obtain ⟨record, notes, counted, path⟩ :=
        (fates reference (by simp)).record (completes reference (by simp))
      obtain ⟨records, others, paths⟩ :=
        inductionHypothesis
          (fun other member => fates other (by simp [member]))
          (fun other member => completes other (by simp [member]))
      refine ⟨record :: records, ?_, by rw [List.map_cons, List.map_cons, path, paths]⟩
      rw [countFiles_cons_result, counted, others]
      rfl

/-- A batch with a file that ends it fails with a fault that is passed on as it is. -/
theorem countFiles_aborts
    {references : List FileRef}
    (fates : ∀ reference ∈ references, Fate disk name charset reference)
    (aborts : ∃ reference ∈ references, Aborts disk charset reference) :
    ∃ fault, (countFiles disk name references).result = .error fault ∧
      fault.isOwn = false := by
  induction references with
  | nil =>
      obtain ⟨_, member, _⟩ := aborts
      cases member
  | cons reference rest inductionHypothesis =>
      rw [countFiles_cons_result]
      by_cases first : Aborts disk charset reference
      · obtain ⟨fault, notOwn, failed⟩ := (fates reference (by simp)).fault first
        exact ⟨fault, by rw [failed]; rfl, notOwn⟩
      · obtain ⟨record, notes, counted, _⟩ := (fates reference (by simp)).record first
        have later : ∃ other ∈ rest, Aborts disk charset other := by
          obtain ⟨other, member, otherAborts⟩ := aborts
          rcases List.mem_cons.mp member with rfl | member
          · exact (first otherAborts).elim
          · exact ⟨other, member, otherAborts⟩
        obtain ⟨fault, failed, notOwn⟩ :=
          inductionHypothesis (fun other member => fates other (by simp [member])) later
        exact ⟨fault, by rw [counted, failed]; rfl, notOwn⟩

end Known

/--
A batch in a charset that the settings take has one record for each path, in order,
exactly if none of its files is one that ends a batch; otherwise a fault that is not
the program's own is passed on.  Every file that is reported is counted as empty.
-/
theorem countFiles_completes_iff
    {name : Text}
    (accepted : Settings.isKnownCharset name = .ok true) :
    ∃ charset, Charset.ofName? name = some charset ∧
      ∀ (disk : Disk) (references : List FileRef),
        ((∃ records, (countFiles disk name references).result = .ok records ∧
            records.map FileRecord.path = references.map FileRef.toText) ↔
          ∀ reference ∈ references, ¬ Aborts disk charset reference) ∧
        ((∃ reference ∈ references, Aborts disk charset reference) →
          ∃ fault, (countFiles disk name references).result = .error fault ∧
            fault.isOwn = false) ∧
        ∀ reference ∈ references, IsReported disk charset reference →
          ∃ warning : Note, warning.level = .warning ∧
            countFile disk name reference = ⟨[warning], .ok (.empty reference.toText)⟩ := by
  obtain ⟨noNulInName, charset, known⟩ := Settings.isKnownCharset_iff.mp accepted
  refine ⟨charset, known, fun disk references => ⟨⟨?_, ?_⟩, ?_, ?_⟩⟩
  · rintro ⟨records, completed, _⟩ reference member aborts
    obtain ⟨fault, failed, _⟩ :=
      countFiles_aborts
        (fun other _ => fate_of_known noNulInName known disk other)
        ⟨reference, member, aborts⟩
    rw [failed] at completed
    cases completed
  · intro completes
    exact
      countFiles_completes
        (fun other _ => fate_of_known noNulInName known disk other) completes
  · intro aborts
    exact
      countFiles_aborts
        (fun other _ => fate_of_known noNulInName known disk other) aborts
  · intro reference _ reported
    cases fate_of_known noNulInName known disk reference with
    | aborts _ aborts =>
        exact (reported.not_aborts aborts).elim
    | reported warning _ _ isWarning counted =>
        exact ⟨warning, isWarning, counted⟩
    | counted _ _ _ unreported =>
        exact (unreported reported).elim

/-- A disk with one file of ASCII text in its working folder. -/
def plainDisk : Disk :=
  ⟨.folder [("a.m".toList, .file (.bytes [0x78, 0x3D, 0x31, 0x3B, 0x0A]))], []⟩

/-- A name that is one byte too long. -/
def longName : Text :=
  List.replicate 256 'n'

/-- A batch of a file completes, and does not if a name that is too long comes after it. -/
theorem countFiles_completes_iff_longName :
    (∃ records,
      (countFiles plainDisk "utf-8".toList [.ofText "a.m".toList]).result = .ok records ∧
        records.map FileRecord.path = ["a.m".toList]) ∧
      ¬ ∃ records,
        (countFiles plainDisk "utf-8".toList [.ofText "a.m".toList, .ofText longName]).result =
            .ok records ∧
          records.map FileRecord.path = ["a.m".toList, longName] := by
  obtain ⟨charset, known, exactly⟩ :=
    @countFiles_completes_iff "utf-8".toList
      (Settings.isKnownCharset_iff.mpr ⟨by decide, .utf8, Charset.lookups.1⟩)
  cases known.symm.trans Charset.lookups.1
  constructor
  · apply (exactly plainDisk [.ofText "a.m".toList]).1.mpr
    intro reference member
    cases List.mem_singleton.mp member
    rintro (refused | ⟨_, _, refused⟩)
    · exact Disk.isFile_answers_iff.mp ⟨true, by decide +kernel⟩ refused
    · exact refused
  · intro completes
    have noAborts :=
      (exactly plainDisk [.ofText "a.m".toList, .ofText longName]).1.mp completes
    have noAnswer :
        plainDisk.isFile (pathOf (.ofText longName)) =
          .error (.refused .tooLong longName) := by
      decide +kernel
    apply noAborts (.ofText longName) (by simp)
    apply Aborts.path
    by_contra taken
    cases noAnswer.symm.trans (Disk.isFile_of_not_refusesPath taken)

/-- The settings take a charset under which a single file of ASCII text ends its batch. -/
theorem countFiles_not_always_completes :
    ¬ ∀ name, Settings.isKnownCharset name = .ok true →
      ∀ (disk : Disk) (references : List FileRef),
        ∃ records, (countFiles disk name references).result = .ok records ∧
          records.map FileRecord.path = references.map FileRef.toText := by
  intro always
  have known := Charset.lookups.2.1
  obtain ⟨records, completed, _⟩ :=
    always "utf-16".toList (Settings.isKnownCharset_iff.mpr ⟨by decide, .utf16, known⟩)
      plainDisk [.ofText "a.m".toList]
  have decoding :=
    @decodeNamed_strayPolicy "utf-16".toList (by decide) [0x78, 0x3D, 0x31, 0x3B, 0x0A]
  rw [Charset.ofTextName_of_ofName? known nofun] at decoding
  have read (path : Text) :
      textOf "utf-16".toList strayPolicy path [0x78, 0x3D, 0x31, 0x3B, 0x0A] =
        .error (.decode (.noByteOrder "UTF-16".toList)) := by
    rw [textOf, decoding]
    rfl
  have found :
      plainDisk.content? (pathOf (.ofText "a.m".toList)) =
        some [0x78, 0x3D, 0x31, 0x3B, 0x0A] := by
    decide +kernel
  rw [countFiles_cons_result, countFile_of_otherFault found rfl (read _) rfl] at completed
  cases completed

end LineTally.Counting
