import LineTally.Proofs.Number.Fraction
import LineTally.Proofs.Run.CountFiles
import LineTally.Proofs.Tally.Balance
import LineTally.Proofs.Tally.Statistics

namespace LineTally

/-!
# Balanced tallies

Whatever becomes of a file that is counted, its record has the counts of some text or
none at all.  So every record of a batch is balanced, and so are the totals, however
many records have been appended.  Balanced totals have no more comments than lines,
which makes the share of comments a number between zero and one.
-/

namespace Tally

/--
What the share of comments is: zero if there are no lines, and otherwise the double of a
quotient between zero and one, which lies there itself.  It is the one in the statistics.
-/
structure HasCommentShare
    (tally : Tally)
    (share : Double) :
    Prop where
  computed : tally.commentShare = .ok share
  reported :
    ∀ statistics, tally.statistics = .ok (some statistics) → statistics.commentShare = share
  withoutLines : tally.totals.total = 0 → share = .zero false
  quotient :
    tally.totals.total ≠ 0 →
      Double.divide? tally.totals.comments tally.totals.total = some share ∧
        (tally.totals.comments : ℚ) / tally.totals.total ∈ Set.Icc (0 : ℚ) 1
  range : ∃ value ∈ Set.Icc (0 : ℚ) 1, share.value? = some value

/-- The statistics of a tally report its share of comments. -/
theorem commentShare_of_statistics
    {tally : Tally}
    {statistics : Statistics}
    (found : tally.statistics = .ok (some statistics)) :
    tally.commentShare = .ok statistics.commentShare := by
  cases tally with
  | nil =>
      cases found
  | cons first rest =>
      obtain ⟨_, made, numbers, _⟩ := statistics_cons_eq_ok_iff.mp found
      cases made
      exact numbers.commentShare

/-- Balanced totals have a share of comments, and it lies between zero and one. -/
theorem exists_hasCommentShare
    {tally : Tally}
    (balanced : tally.totals.IsBalanced) :
    ∃ share, tally.HasCommentShare share := by
  have reportedIf (share : Double) (computed : tally.commentShare = .ok share) :
      ∀ statistics, tally.statistics = .ok (some statistics) →
        statistics.commentShare = share := by
    intro statistics found
    exact Except.ok.inj ((commentShare_of_statistics found).symm.trans computed)
  by_cases noLines : tally.totals.total = 0
  · have computed : tally.commentShare = .ok (.zero false) := if_pos noLines
    refine ⟨.zero false, computed, reportedIf _ computed, fun _ => rfl, ?_, 0, ?_⟩
    · intro lines
      exact (lines noLines).elim
    · simp [Double.zero, Double.value?]
  · have nonneg := balanced.comments_nonneg
    have bounded := balanced.comments_le_total
    have positive : 0 < tally.totals.total := by omega
    obtain ⟨share, value, divided, isValue, range⟩ :=
      Double.divide?_of_le nonneg positive bounded
    have computed : tally.commentShare = .ok share := by
      rw [Tally.commentShare, if_neg noLines, Double.divide, divided]
    refine ⟨share, computed, reportedIf _ computed, ?_, ?_, value, range, isValue⟩
    · intro none
      exact (noLines none).elim
    · intro _
      refine ⟨divided, ?_, ?_⟩
      · exact div_nonneg (by exact_mod_cast nonneg) (by exact_mod_cast positive.le)
      · rw [div_le_one₀ (by exact_mod_cast positive)]
        exact_mod_cast bounded

end Tally

namespace Counting

/-- The record of a file is balanced. -/
theorem isBalanced_of_countFile
    {disk : Disk}
    {charset : Text}
    {reference : FileRef}
    {record : FileRecord}
    (counted : (countFile disk charset reference).result = .ok record) :
    record.counts.IsBalanced := by
  rcases (record_of_countFile counted).2 with rfl | ⟨text, rfl⟩
  · exact .zero
  · exact .ofText text

/-- Every record of a batch is balanced. -/
theorem isBalanced_of_countFiles
    {disk : Disk}
    {charset : Text}
    {references : List FileRef}
    {tally : Tally}
    (counted : (countFiles disk charset references).result = .ok tally) :
    ∀ record ∈ tally, record.counts.IsBalanced := by
  intro record member
  obtain ⟨reference, _, fileCounted, _⟩ := exists_countFile_of_mem counted member
  exact isBalanced_of_countFile fileCounted

/--
A text has a line for each line feed and one for what is after the last of them, and its
columns add up to its lines and its mixed lines again, of which neither column of them
has fewer.  In every batch that is counted the records are balanced, and so are the
totals after any number of records; their share of comments lies between zero and one.
-/
theorem counts_balanced :
    (∀ text : Text,
      (Counts.ofText text).total =
          text.count '\n' + (if text.HasOpenLine then 1 else 0 : Nat) ∧
        (Counts.ofText text).code + (Counts.ofText text).comments
            + (Counts.ofText text).blank =
          (Counts.ofText text).total + (Line.kinds text).count .mixed ∧
        (Line.kinds text).count .mixed ≤
          min (Counts.ofText text).code (Counts.ofText text).comments ∧
        (Counts.ofText text).IsBalanced) ∧
      ∀ (disk : Disk) (charset : Text) (references : List FileRef) (tally : Tally),
        (countFiles disk charset references).result = .ok tally →
        (∀ record ∈ tally, record.counts.IsBalanced) ∧
          ∀ appended rest : Tally, tally = appended ++ rest →
            appended.totals.IsBalanced ∧
              appended.totals.comments ≤ appended.totals.total ∧
              ∃ share, appended.HasCommentShare share := by
  constructor
  · intro text
    have kinds := LineKind.length_eq_counts (Line.kinds text)
    rw [Line.length_kinds] at kinds
    refine ⟨?_, ?_, ?_, .ofText text⟩
    · rw [Counts.ofText_eq, Text.length_lines]
      exact Nat.cast_add _ _
    · rw [Counts.ofText_eq]
      simp only
      omega
    · rw [Counts.ofText_eq]
      simp only
      omega
  · intro disk charset references tally counted
    have records := isBalanced_of_countFiles counted
    refine ⟨records, ?_⟩
    rintro appended rest rfl
    have totals : appended.totals.IsBalanced := by
      apply Counts.IsBalanced.sum
      intro counts member
      obtain ⟨record, inTally, rfl⟩ := List.mem_map.mp member
      exact records record (List.mem_append_left rest inTally)
    exact ⟨totals, totals.comments_le_total, Tally.exists_hasCommentShare totals⟩

/-- A mixed line and a blank one, in ASCII. -/
def mixedContent : List UInt8 :=
  [0x78, 0x3D, 0x31, 0x3B, 0x20, 0x25, 0x31, 0x0A, 0x20, 0x0A]

/-- A disk with a file of a mixed line and a blank one. -/
def mixedDisk : Disk :=
  ⟨.folder [("a.m".toList, .file (.bytes mixedContent))], []⟩

/-- A mixed line counts in two columns, and the totals with a missing file are balanced. -/
theorem counts_balanced_mixedDisk :
    ∃ tally : Tally,
      (countFiles mixedDisk usualCharset [.ofText "a.m".toList, .ofText "b.m".toList]).result =
          .ok tally ∧
        tally.totals = ⟨1, 1, 1, 2⟩ ∧ tally.totals.IsBalanced ∧
        ∃ share, tally.HasCommentShare share := by
  have taken : ¬ mixedDisk.RefusesPath (pathOf (.ofText "b.m".toList)) :=
    Disk.isFile_answers_iff.mp ⟨false, by decide +kernel⟩
  have file :=
    @countFile_of_text mixedDisk usualCharset (.ofText "a.m".toList) mixedContent _
      (by decide +kernel) (by decide) (textOf_usualCharset _ _)
  have missing :=
    @countFile_of_noBody mixedDisk usualCharset (.ofText "b.m".toList) taken
      (by decide +kernel)
  have counted :
      (countFiles mixedDisk usualCharset [.ofText "a.m".toList, .ofText "b.m".toList]).result =
        .ok
          [ ⟨"a.m".toList, .ofText (Utf8.legible mixedContent).unifyLineEnds⟩,
            .empty "b.m".toList ] := by
    rw [countFiles_cons_result, countFiles_cons_result, file, missing]
    rfl
  obtain ⟨balanced, _, share⟩ :=
    (counts_balanced.2 _ _ _ _ counted).2 _ [] (List.append_nil _).symm
  exact ⟨_, counted, by decide +kernel, balanced, share⟩

end Counting

end LineTally
