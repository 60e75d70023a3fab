import LineTally.Proofs.Number.Decimal
import LineTally.Proofs.Path.Suffix
import LineTally.Proofs.Text.Lines
import LineTally.Report.Text
import LineTally.Tally.Statistics

namespace LineTally

/-!
# Reading the text report back

The text report escapes nothing, and a path may look like any part of it.  Still it can be
read back as long as no path has a line feed: the heading and the totals have a fixed
number of lines, and in the line of a record the counts stand after the last colon.
-/

namespace Tally

/-- The totals of a column are the sum of its entries. -/
theorem totals_eq
    (tally : Tally) :
    tally.totals =
      { code := (tally.column Counts.code).sum
        comments := (tally.column Counts.comments).sum
        blank := (tally.column Counts.blank).sum
        total := (tally.column Counts.total).sum } := by
  induction tally with
  | nil =>
      rfl
  | cons record rest inductionHypothesis =>
      have totals : totals (record :: rest) = record.counts + totals rest := rfl
      rw [totals, inductionHypothesis]
      rfl

end Tally

/-- Counts none of which has too many digits to be written. -/
def Counts.AreWritable
    (counts : Counts) :
    Prop :=
  ∀ count ∈ [counts.code, counts.comments, counts.blank, counts.total],
    Decimal.isWritable count = true

instance (counts : Counts) : Decidable counts.AreWritable :=
  inferInstanceAs (Decidable (∀ _ ∈ _, _))

namespace Report

/-- The numbers of a report can be written if the counts and their totals can be. -/
theorem isWritable_iff
    {tally : Tally} :
    isWritable tally = true ↔
      tally.totals.AreWritable ∧ ∀ record ∈ tally, record.counts.AreWritable := by
  simp [isWritable, Counts.AreWritable, List.all_eq_true]

/-- The counts that stand between bars, if there are four of them. -/
def readCounts?
    (text : Text) :
    Option Counts :=
  match ((text.filter (· ≠ ' ')).splitOn '|').map Decimal.toInt with
  | [code, comments, blank, total] => some ⟨code, comments, blank, total⟩
  | _ => none

/-- The record that a line of the table stands for: its counts stand after the last colon. -/
def readRecordLine?
    (line : Text) :
    Option FileRecord :=
  let after := Text.afterLast ':' line
  (readCounts? after).map fun counts => ⟨line.take (line.length - after.length - 2), counts⟩

/-- The records of a text report, between its first two lines and its last six. -/
def readText?
    (text : Text) :
    Option Tally :=
  ((text.lines.drop 2).take (text.lines.length - 8)).mapM readRecordLine?

/-- A character that neither is a digit nor a minus sign is not in a whole number. -/
theorem notMem_ofInt
    {mark : Char}
    (notDigit : mark.isDigit = false)
    (notSign : mark ≠ '-')
    (value : Int) :
    mark ∉ Decimal.ofInt value := by
  intro member
  rcases Decimal.mem_ofInt member with isSign | isDigit
  · exact notSign isSign
  · rw [notDigit] at isDigit
    cases isDigit

/-- Such a character is among four counts only if it is in the bars between them. -/
theorem notMem_countsText
    {mark : Char}
    (notDigit : mark.isDigit = false)
    (notSign : mark ≠ '-')
    (notBar : mark ∉ " | ".toList)
    (counts : Counts) :
    mark ∉ countsText counts := by
  have notInNumber := notMem_ofInt notDigit notSign
  simp only [countsText, List.map_cons, List.map_nil, List.intercalate_cons_cons,
    List.intercalate_singleton, List.mem_append, notInNumber, notBar, or_self, not_false_iff]

/-- Without the blanks around the bars four counts are the numbers between bars alone. -/
theorem filter_countsText
    (counts : Counts) :
    (countsText counts).filter (· ≠ ' ') =
      ['|'].intercalate
        ([counts.code, counts.comments, counts.blank, counts.total].map Decimal.ofInt) := by
  have noBlank (value : Int) :
      (Decimal.ofInt value).filter (· ≠ ' ') = Decimal.ofInt value := by
    rw [List.filter_eq_self]
    rintro c member
    rw [decide_eq_true_eq]
    rintro rfl
    exact notMem_ofInt (by decide) (by decide) value member
  have bar : (" | ".toList).filter (· ≠ ' ') = ['|'] := by
    decide
  simp only [countsText, List.map_cons, List.map_nil, List.intercalate_cons_cons,
    List.intercalate_singleton, List.filter_append, noBlank, bar]

/-- Four counts are read back from between their bars. -/
theorem readCounts?_countsText
    (counts : Counts) :
    readCounts? (' ' :: countsText counts) = some counts := by
  have split :
      ((' ' :: countsText counts).filter (· ≠ ' ')).splitOn '|' =
        [counts.code, counts.comments, counts.blank, counts.total].map Decimal.ofInt := by
    rw [List.filter_cons_of_neg (by decide), filter_countsText, List.splitOn_intercalate]
    · intro number isNumber
      obtain ⟨value, _, rfl⟩ := List.mem_map.mp isNumber
      exact notMem_ofInt (by decide) (by decide) value
    · simp
  rw [readCounts?, split]
  simp only [List.map_cons, List.map_nil, Decimal.toInt_ofInt]

/-- The line of a record tells its path and its four counts, whatever the path is. -/
theorem readRecordLine?_recordLine
    (record : FileRecord) :
    readRecordLine? (recordLine record) = some record := by
  have line :
      recordLine record = (record.path ++ [' ']) ++ ':' :: ' ' :: countsText record.counts := by
    simp [recordLine]
  -- Whatever the path looks like, the last colon of the line is the one behind it.
  have noColon : ':' ∉ ' ' :: countsText record.counts :=
    List.not_mem_cons_of_ne_of_not_mem (by decide)
      (notMem_countsText (by decide) (by decide) (by decide) _)
  have size :
      (recordLine record).length - (' ' :: countsText record.counts).length - 2 =
        record.path.length := by
    simp only [line, List.length_append, List.length_cons, List.length_nil]
    omega
  have path : (recordLine record).take record.path.length = record.path := by
    rw [line, List.append_assoc]
    exact List.take_left
  rw [readRecordLine?, line, Text.afterLast_append noColon, ← line, size, path,
    readCounts?_countsText]
  rfl

section Lines

variable
  {tally : Tally}

/-- No line of a report has a line feed if no path has one. -/
theorem noLineFeed_textLines
    (oneLine : ∀ record ∈ tally, '\n' ∉ record.path) :
    ∀ line ∈ textLines tally, '\n' ∉ line := by
  have notInNumber := @notMem_ofInt '\n' (by decide) (by decide)
  have notInTotals : ∀ line ∈ totalLines tally.totals, '\n' ∉ line := by
    simp [totalLines, notInNumber]
  have notInTable : ∀ line ∈ tally.map recordLine, '\n' ∉ line := by
    intro line isLine
    obtain ⟨record, member, rfl⟩ := List.mem_map.mp isLine
    have notInCounts :=
      @notMem_countsText '\n' (by decide) (by decide) (by decide) record.counts
    simp [recordLine, oneLine record member, notInCounts]
  intro line member
  simp only [textLines, List.cons_append, List.mem_cons, List.mem_append] at member
  rcases member with rfl | rfl | inTable | inTotals
  · decide
  · decide
  · exact notInTable line inTable
  · exact notInTotals line inTotals

/-- The lines of a report are those that it is made of. -/
theorem lines_text
    (oneLine : ∀ record ∈ tally, '\n' ∉ record.path) :
    (text tally).lines = textLines tally :=
  Text.lines_of_ended (noLineFeed_textLines oneLine)

/-- A report has a line for each record, two before them and six after them. -/
theorem length_textLines :
    (textLines tally).length = tally.length + 8 := by
  simp [textLines, totalLines]

/-- Between its first two lines and its last six a report has the lines of the records. -/
theorem take_drop_textLines :
    ((textLines tally).drop 2).take tally.length = tally.map recordLine := by
  have table : (textLines tally).drop 2 = tally.map recordLine ++ totalLines tally.totals := rfl
  rw [table]
  exact List.take_left' (List.length_map _)

/-- The records are read back from a report. -/
theorem readText?_text
    (oneLine : ∀ record ∈ tally, '\n' ∉ record.path) :
    readText? (text tally) = some tally := by
  rw [readText?, lines_text oneLine, length_textLines, Nat.add_sub_cancel, take_drop_textLines,
    List.mapM_map]
  induction tally with
  | nil =>
      rfl
  | cons record rest inductionHypothesis =>
      obtain ⟨_, restOneLine⟩ := List.forall_mem_cons.mp oneLine
      rw [List.mapM_cons, Function.comp_apply, readRecordLine?_recordLine,
        inductionHypothesis restOneLine]
      rfl

/-- Every report ends with a line feed. -/
theorem getLast?_text :
    (text tally).getLast? = some '\n' := by
  have someLines : textLines tally ≠ [] := List.cons_ne_nil _ _
  rw [text, ← List.dropLast_concat_getLast someLines, List.flatMap_append,
    List.flatMap_singleton, ← List.append_assoc, List.getLast?_concat]

/-- What is written of a tally is the text of its report, if its numbers can be written. -/
theorem writtenText_eq_ok_iff
    {content : Text} :
    writtenText tally = .ok content ↔ isWritable tally = true ∧ content = text tally := by
  rw [writtenText]
  split_ifs with writable <;> simp [writable, eq_comm]

end Lines

/--
A report of paths without line feeds, with counts that can be written, is written exactly if
the totals can be, too.  Its lines are the heading, the line of each record and the totals,
which are the sums of the columns; the line of a record tells the record, the whole report
tells the records in their order, and no other records have the same report.
-/
theorem writtenText_lossless
    {tally : Tally}
    (oneLine : ∀ record ∈ tally, '\n' ∉ record.path)
    (counts : ∀ record ∈ tally, record.counts.AreWritable) :
    (¬ tally.totals.AreWritable → writtenText tally = .error .written) ∧
      (tally.totals.AreWritable →
        ∃ content, writtenText tally = .ok content ∧
          content.lines =
            [heading, rule] ++ tally.map recordLine ++
              totalLines
                { code := (tally.column Counts.code).sum
                  comments := (tally.column Counts.comments).sum
                  blank := (tally.column Counts.blank).sum
                  total := (tally.column Counts.total).sum } ∧
          content.getLast? = some '\n' ∧
          (∀ record, readRecordLine? (recordLine record) = some record) ∧
          readText? content = some tally ∧
          ∀ other : Tally, (∀ record ∈ other, '\n' ∉ record.path) →
            writtenText other = .ok content → other = tally) := by
  constructor
  · intro tooLarge
    rw [writtenText, if_neg]
    exact fun writable => tooLarge (isWritable_iff.mp writable).1
  · intro totals
    refine
      ⟨text tally, writtenText_eq_ok_iff.mpr ⟨isWritable_iff.mpr ⟨totals, counts⟩, rfl⟩, ?_,
        getLast?_text, readRecordLine?_recordLine, readText?_text oneLine, ?_⟩
    · rw [lines_text oneLine, ← Tally.totals_eq]
      rfl
    · intro other otherOneLine written
      obtain ⟨_, same⟩ := writtenText_eq_ok_iff.mp written
      have readBack := readText?_text otherOneLine
      rw [← same, readText?_text oneLine] at readBack
      exact (Option.some.inj readBack).symm

/-- Records whose paths look like parts of a report. -/
def deceptiveTally : Tally :=
  [ ⟨"a : 1 | 2 | 3 | 4".toList, ⟨5, -6, 7, 8⟩⟩,
    ⟨[], ⟨0, 0, 0, 0⟩⟩,
    ⟨"Grand Totals:\r".toList, ⟨1, 1, 0, 1⟩⟩ ]

/-- Records whose paths look like parts of a report are read back from it. -/
theorem writtenText_lossless_deceptiveTally :
    ∃ content, writtenText deceptiveTally = .ok content ∧
      readText? content = some deceptiveTally := by
  obtain ⟨_, lossless⟩ :=
    @writtenText_lossless deceptiveTally (by decide) (by decide +kernel)
  obtain ⟨content, written, _, _, _, readBack, _⟩ := lossless (by decide +kernel)
  exact ⟨content, written, readBack⟩

/-- Three records with as many lines each as can just be written. -/
def overfullTally : Tally :=
  ["p", "q", "r"].map fun path => ⟨path.toList, ⟨0, 0, 0, Decimal.bound - 1⟩⟩

/-- Counts that can be written do not always add up to totals that can be. -/
theorem writtenText_not_always_lossless :
    ¬ ∀ tally : Tally,
        (∀ record ∈ tally, '\n' ∉ record.path) →
        (∀ record ∈ tally, record.counts.AreWritable) →
        ∃ content, writtenText tally = .ok content ∧ readText? content = some tally := by
  intro always
  obtain ⟨content, written, _⟩ := always overfullTally (by decide) (by decide +kernel)
  have tooLarge : isWritable overfullTally = false := by
    decide +kernel
  rw [writtenText, tooLarge] at written
  cases written

end Report

end LineTally
