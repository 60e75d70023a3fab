import LineTally.Proofs.Text.Spelling
import LineTally.Report.Spelled

namespace LineTally

/-!
# Reports of any names

Under names that are texts, the string of a report is its text, and it is written as this
text is.  A report with half of a character in one of its names is not encoded, but its file
has been opened by then.
-/

namespace SpelledTally

variable
  {tally : SpelledTally}

/-- The records of texts are under texts. -/
theorem named_map_ofRecord
    (records : Tally) :
    SpelledTally.named (records.map .ofRecord) = records := by
  induction records with
  | nil =>
      rfl
  | cons record rest inductionHypothesis =>
      have isRecord : (SpelledRecord.ofRecord record).record? = some record := by
        rw [SpelledRecord.record?, SpelledRecord.ofRecord, Spelling.text?_eq_some_iff.mpr rfl]
        rfl
      rw [List.map_cons, named, List.filterMap_cons_some isRecord, ← named, inductionHypothesis]

/-- Records whose names are all texts are the records of texts. -/
theorem eq_map_ofRecord
    (allTexts : ∀ record ∈ tally, record.path.text? ≠ none) :
    tally = tally.named.map .ofRecord := by
  induction tally with
  | nil =>
      rfl
  | cons record rest inductionHypothesis =>
      obtain ⟨path, isText⟩ := Option.ne_none_iff_exists'.mp (allTexts record List.mem_cons_self)
      have isRecord : record.record? = some ⟨path, record.counts⟩ := by
        rw [SpelledRecord.record?, isText]
        rfl
      have sameRecord : SpelledRecord.ofRecord ⟨path, record.counts⟩ = record := by
        rw [SpelledRecord.ofRecord, ← Spelling.text?_eq_some_iff.mp isText]
      have sameRest := inductionHypothesis fun other among =>
        allTexts other (List.mem_cons_of_mem _ among)
      rw [named, List.filterMap_cons_some isRecord, List.map_cons, sameRecord, ← named,
        ← sameRest]

/-- The counts of records of texts are those of the records. -/
theorem counts_unnamed_map_ofRecord
    (records : Tally) :
    (SpelledTally.unnamed (records.map .ofRecord)).map FileRecord.counts =
      records.map FileRecord.counts := by
  simp only [unnamed, List.map_map]
  rfl

end SpelledTally

namespace Report

/-- Whether numbers can be written does not depend on the names that they are under. -/
theorem isWritable_unnamed_map_ofRecord
    (records : Tally) :
    isWritable (SpelledTally.unnamed (records.map .ofRecord)) = isWritable records := by
  simp only [isWritable, Tally.totals, SpelledTally.counts_unnamed_map_ofRecord]

/-- The line of a text is the one in the text report. -/
theorem spelledLine_ofRecord
    (record : FileRecord) :
    spelledLine (.ofRecord record) = .ofText (recordLine record) := by
  rw [spelledLine, SpelledRecord.ofRecord, ← Spelling.ofText_append, recordLine, List.append_assoc]

/-- The lines of texts are those of the text report. -/
theorem spelledLines_map_ofRecord
    (records : Tally) :
    spelledLines (records.map .ofRecord) = (textLines records).map .ofText := by
  have lines : (records.map SpelledRecord.ofRecord).map spelledLine =
      (records.map recordLine).map .ofText := by
    simp only [List.map_map, List.map_inj_left, Function.comp_apply, spelledLine_ofRecord,
      implies_true]
  rw [spelledLines, lines, Tally.totals, SpelledTally.counts_unnamed_map_ofRecord, textLines,
    Tally.totals]
  simp only [List.map_cons, List.map_append, List.map_nil, List.cons_append, List.nil_append]

/-- The string of the report of texts is the text of the report. -/
theorem spelledText_map_ofRecord
    (records : Tally) :
    spelledText (records.map .ofRecord) = .ofText (text records) := by
  rw [spelledText, spelledLines_map_ofRecord, text, Spelling.ofText, List.map_flatMap,
    List.flatMap_map]
  simp only [Spelling.ofText, List.map_append, List.map_cons, List.map_nil]

/-- The report of a name with half of a character in it has this half in it. -/
theorem text?_spelledText_of_mem
    {tally : SpelledTally}
    {record : SpelledRecord}
    (among : record ∈ tally)
    (noText : record.path.text? = none) :
    (spelledText tally).text? = none := by
  obtain ⟨number, isHalf⟩ := Spelling.text?_eq_none_iff.mp noText
  have inLine : .half number ∈ spelledLine record := List.mem_append_left _ isHalf
  have isLine : spelledLine record ∈ spelledLines tally :=
    List.mem_append_left _ (List.mem_append_right _ (List.mem_map_of_mem among))
  exact Spelling.text?_eq_none_iff.mpr
    ⟨number, List.mem_flatMap.mpr ⟨_, isLine, List.mem_append_left _ inLine⟩⟩

/-- The report of a text is written as any other. -/
theorem writeSpelled_ofText
    (disk : Disk)
    (path : Path)
    (content : Text) :
    writeSpelled disk path (.ofText content) =
      match (write disk path content).result with
      | .ok written => (written.disk, none)
      | .error fault => (disk, some (.plain fault)) := by
  rw [writeSpelled, Spelling.encode, Spelling.encodeFrom_ofText, Except.toOption,
    Option.getD_some, write]
  cases disk.write path (Utf8.encode content) with
  | ok later => rfl
  | error fault => cases fault <;> rfl

/-- A report that cannot be encoded leaves its file without any bytes if that is opened. -/
theorem writeSpelled_of_opened
    {disk later : Disk}
    {path : Path}
    {report : Spelling}
    {reason : EncodeFault}
    (failed : report.encode = .error reason)
    (opened : disk.write path [] = .ok later) :
    writeSpelled disk path report = (later, some (.encode reason)) := by
  rw [writeSpelled, failed, Except.toOption, Option.getD_none, opened]

/-- A report that cannot be encoded leaves its file without any bytes, or is not written. -/
theorem writeSpelled_of_encode_error
    {disk : Disk}
    {path : Path}
    {report : Spelling}
    {reason : EncodeFault}
    (failed : report.encode = .error reason) :
    (∃ later, disk.write path [] = .ok later ∧
        writeSpelled disk path report = (later, some (.encode reason))) ∨
      ∃ fault, writeSpelled disk path report = (disk, some (.plain fault)) := by
  cases opened : disk.write path [] with
  | ok later =>
      exact .inl ⟨later, rfl, writeSpelled_of_opened failed opened⟩
  | error fault =>
      rw [writeSpelled, failed, Except.toOption, Option.getD_none, opened]
      cases fault <;> exact .inr ⟨_, rfl⟩

end Report

end LineTally
