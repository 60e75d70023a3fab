import LineTally.Proofs.Json.RoundTrip
import LineTally.Proofs.Report.Text
import LineTally.Proofs.Tally.Statistics
import LineTally.Report.Document

namespace LineTally

/-!
# Reading the report document back

All doubles of a document are quotients that came out finite, so its text is read back as
the same document.  It holds each record with all that it consists of, and the totals that
the text report shows, too.
-/

/-- A quotient that came out finite is a finite double as rounding makes them. -/
theorem Double.isFinite_of_divide
    {numerator denominator : Int}
    {quotient : Double}
    (nonzero : denominator ≠ 0)
    (divided : Double.divide numerator denominator = .ok quotient) :
    Json.IsFinite quotient := by
  have positive : 0 < denominator.natAbs := Int.natAbs_pos.mpr nonzero
  obtain ⟨mantissa, exponent, rounded, rfl⟩ := (Double.divide_eq_ok_iff nonzero).mp divided
  exact Double.isRounded_of_ofQuotient positive rounded

namespace Average

/-- A quotient that came out finite is a number that can be read back. -/
theorem isPlain_divide
    {numerator denominator : Int}
    {average : Average}
    (nonzero : denominator ≠ 0)
    (divided : (Double.divide numerator denominator).map Average.fraction = .ok average) :
    Json.IsPlain (Report.averageNumber average) := by
  obtain ⟨quotient, isQuotient, rfl⟩ := map_fraction_eq_ok_iff.mp divided
  rw [Report.averageNumber, Json.IsPlain]
  exact Double.isFinite_of_divide nonzero isQuotient

/-- The mean of a column is a plain number in the document. -/
theorem isPlain_mean
    {column : List Int}
    {average : Average}
    (nonempty : column ≠ [])
    (found : mean column = .ok average) :
    Json.IsPlain (Report.averageNumber average) := by
  have nonzero : (column.length : Int) ≠ 0 := by
    simpa using nonempty
  simp only [mean] at found
  split_ifs at found
  · cases found
    simp [Report.averageNumber, Json.IsPlain]
  · exact isPlain_divide nonzero found

/-- The median of a column is a plain number in the document. -/
theorem isPlain_median
    {column : List Int}
    {average : Average}
    (found : median column = .ok average) :
    Json.IsPlain (Report.averageNumber average) := by
  simp only [median] at found
  split_ifs at found
  · cases found
    simp [Report.averageNumber, Json.IsPlain]
  · exact isPlain_divide two_ne_zero found

end Average

namespace Tally

/-- The share of comments is a finite number. -/
theorem isFinite_commentShare
    {tally : Tally}
    {share : Double}
    (found : tally.commentShare = .ok share) :
    Json.IsFinite share := by
  rw [commentShare] at found
  split_ifs at found with noLines
  · cases found
    exact Double.isRounded_zero
  · exact Double.isFinite_of_divide noLines found

/-- The statistics of a tally can be read back. -/
theorem isPlain_statistics
    {tally : Tally}
    {statistics : Option Statistics}
    (found : tally.statistics = .ok statistics) :
    Json.IsPlain (Report.statisticsObject statistics) := by
  cases tally with
  | nil =>
      cases found
      simp [Report.statisticsObject, Json.IsPlain, Json.AreEntriesPlain]
  | cons first rest =>
      have nonempty (entry : Counts → Int) : column (first :: rest) entry ≠ [] :=
        List.cons_ne_nil _ _
      obtain ⟨statistics, rfl, numbers, _⟩ := statistics_cons_eq_ok_iff.mp found
      have shareFinite : Json.IsPlain (.real statistics.commentShare) := by
        rw [Json.IsPlain]
        exact isFinite_commentShare numbers.commentShare
      have nameIsPlain : Json.IsPlain (.string statistics.largestFile) := by
        rw [Json.IsPlain]
        trivial
      rw [Report.statisticsObject, Json.IsPlain]
      simp only [Json.AreEntriesPlain, and_true]
      exact ⟨Average.isPlain_mean (nonempty _) numbers.meanTotal,
        Average.isPlain_median numbers.medianTotal,
        Average.isPlain_mean (nonempty _) numbers.meanCode,
        Average.isPlain_median numbers.medianCode, shareFinite, nameIsPlain,
        Average.isPlain_mean (nonempty _) numbers.meanComments⟩

end Tally

namespace Report

variable
  {tally : Tally}

/-- The document of a tally can be read back. -/
theorem isPlain_documentWith
    {statistics : Json}
    (isPlain : statistics.IsPlain) :
    (documentWith tally statistics).IsPlain := by
  have records (tally : Tally) : Json.ArePlain (tally.map recordObject) := by
    induction tally with
    | nil =>
        trivial
    | cons record rest inductionHypothesis =>
        rw [List.map_cons, Json.ArePlain]
        exact ⟨by simp [recordObject, countEntries, Json.IsPlain, Json.AreEntriesPlain],
          inductionHypothesis⟩
  simp [documentWith, totalsObject, countEntries, Json.IsPlain, Json.AreEntriesPlain, isPlain,
    records]

/-- What is written of a tally is the text of its document, if its numbers can be written. -/
theorem documentText_of_statistics
    {statistics : Option Statistics}
    (found : tally.statistics = .ok statistics) :
    documentText tally =
      if isWritable tally then
        .ok (documentWith tally (statisticsObject statistics)).toText
      else
        .error .written := by
  simp only [documentText, document, found, bind, Except.bind, pure, Except.pure]

/-- The document of a tally, with the totals as the sums of the columns. -/
theorem documentWith_eq
    (statistics : Json) :
    documentWith tally statistics =
      .object
        [ ("summary".toList, .object
            [ ("files".toList, .integer tally.length),
              ("code".toList, .integer (tally.column Counts.code).sum),
              ("comments".toList, .integer (tally.column Counts.comments).sum),
              ("blank".toList, .integer (tally.column Counts.blank).sum),
              ("total".toList, .integer (tally.column Counts.total).sum) ]),
          ("statistics".toList, statistics),
          ("files".toList, .array (tally.map fun record =>
            .object
              [ ("path".toList, .string record.path),
                ("code".toList, .integer record.counts.code),
                ("comments".toList, .integer record.counts.comments),
                ("blank".toList, .integer record.counts.blank),
                ("total".toList, .integer record.counts.total) ])) ] := by
  rw [documentWith, totalsObject, Tally.totals_eq]
  rfl

/-- The object of a record tells all that the record consists of. -/
theorem recordObject_injective : Function.Injective recordObject := by
  rintro ⟨path, code, comments, blank, total⟩ ⟨path', code', comments', blank', total'⟩ same
  simp only [recordObject, countEntries, Json.object.injEq, List.cons.injEq, Prod.mk.injEq,
    Json.string.injEq, Json.integer.injEq, true_and, and_true] at same
  obtain ⟨rfl, rfl, rfl, rfl, rfl⟩ := same
  rfl

/-- The document of a tally tells its records. -/
theorem eq_of_documentWith_eq
    {other : Tally}
    {statistics otherStatistics : Json}
    (same : documentWith other otherStatistics = documentWith tally statistics) :
    other = tally := by
  simp only [documentWith, Json.object.injEq, List.cons.injEq, Prod.mk.injEq, Json.array.injEq,
    true_and, and_true] at same
  exact List.map_injective_iff.mpr recordObject_injective same.2.2

/-- A document that was written is read back. -/
theorem ofText?_documentText
    {content : Text}
    (written : documentText tally = .ok content) :
    ∃ statistics, Json.ofText? content = some (documentWith tally statistics) := by
  obtain ⟨document, made, written⟩ := Except.bind_eq_ok_iff.mp written
  obtain ⟨statistics, found, made⟩ := Except.bind_eq_ok_iff.mp made
  cases made
  split_ifs at written
  cases written
  exact ⟨_, (Json.toText_spec (isPlain_documentWith (Tally.isPlain_statistics found))).2.2⟩

/--
The document of records with counts that can be written, whose statistics are finite, is
written exactly if the totals can be, too.  It is pure ASCII, it is a document of the grammar,
and it is read back as the object with the number of records and the sums of the columns, with
the statistics, and with one object for each record in order, which holds all that the record
consists of.  The text report shows the same four sums, and no other records have the same
document.
-/
theorem documentText_lossless
    {tally : Tally}
    {statistics : Option Statistics}
    (counts : ∀ record ∈ tally, record.counts.AreWritable)
    (finite : tally.statistics = .ok statistics) :
    (¬ tally.totals.AreWritable → documentText tally = .error .written) ∧
      (tally.totals.AreWritable →
        ∃ content, documentText tally = .ok content ∧
          (∀ c ∈ content, c.toNat < 128) ∧
          Json.Grammar.IsDocument content ∧
          Json.ofText? content =
            some (.object
              [ ("summary".toList, .object
                  [ ("files".toList, .integer tally.length),
                    ("code".toList, .integer (tally.column Counts.code).sum),
                    ("comments".toList, .integer (tally.column Counts.comments).sum),
                    ("blank".toList, .integer (tally.column Counts.blank).sum),
                    ("total".toList, .integer (tally.column Counts.total).sum) ]),
                ("statistics".toList, statisticsObject statistics),
                ("files".toList, .array (tally.map fun record =>
                  .object
                    [ ("path".toList, .string record.path),
                      ("code".toList, .integer record.counts.code),
                      ("comments".toList, .integer record.counts.comments),
                      ("blank".toList, .integer record.counts.blank),
                      ("total".toList, .integer record.counts.total) ])) ]) ∧
          (∃ table, writtenText tally =
            .ok (table ++
              (totalLines
                { code := (tally.column Counts.code).sum
                  comments := (tally.column Counts.comments).sum
                  blank := (tally.column Counts.blank).sum
                  total := (tally.column Counts.total).sum }).flatMap fun line =>
                line ++ ['\n'])) ∧
          ∀ other : Tally, documentText other = .ok content → other = tally) := by
  have written := documentText_of_statistics finite
  have isPlain := @isPlain_documentWith tally _ (Tally.isPlain_statistics finite)
  obtain ⟨isAscii, isDocument, isRead⟩ := Json.toText_spec isPlain
  constructor
  · intro tooLarge
    rw [written, if_neg]
    exact fun writable => tooLarge (isWritable_iff.mp writable).1
  · intro totals
    have writable : isWritable tally = true := isWritable_iff.mpr ⟨totals, counts⟩
    rw [if_pos writable] at written
    refine
      ⟨_, written, isAscii, isDocument, isRead.trans (congrArg some (documentWith_eq _)), ?_, ?_⟩
    · refine ⟨(heading :: rule :: tally.map recordLine).flatMap fun line => line ++ ['\n'], ?_⟩
      rw [writtenText, if_pos writable, text, textLines, List.flatMap_append, Tally.totals_eq]
    · intro other otherWritten
      obtain ⟨otherStatistics, otherRead⟩ := ofText?_documentText otherWritten
      rw [isRead] at otherRead
      exact eq_of_documentWith_eq (Option.some.inj otherRead).symm

/-- An odd number of records has statistics if the means of its columns are finite. -/
theorem exists_statistics
    {first : FileRecord}
    {rest : Tally}
    (odd : (first :: rest).length % 2 = 1)
    (means :
      ∀ entry ∈ [Counts.total, Counts.code, Counts.comments],
        (Average.mean (Tally.column (first :: rest) entry)).isOk = true)
    (share : (Tally.commentShare (first :: rest)).isOk = true) :
    ∃ statistics, Tally.statistics (first :: rest) = .ok statistics := by
  have exists_of_isOk {α : Type} {value : Except NumberFault α} (isOk : value.isOk = true) :
      ∃ found, value = .ok found := by
    cases value with
    | error fault => cases isOk
    | ok found => exact ⟨found, rfl⟩
  have median (entry : Counts → Int) :
      ∃ average, Average.median (Tally.column (first :: rest) entry) = .ok average := by
    have oddColumn : (Tally.column (first :: rest) entry).length % 2 = 1 := by
      rwa [Tally.column, List.length_map]
    obtain ⟨middle, _, isMedian⟩ := Average.median_odd oddColumn
    exact ⟨_, isMedian⟩
  obtain ⟨meanTotal, isMeanTotal⟩ := exists_of_isOk (means Counts.total (by simp))
  obtain ⟨medianTotal, isMedianTotal⟩ := median Counts.total
  obtain ⟨meanCode, isMeanCode⟩ := exists_of_isOk (means Counts.code (by simp))
  obtain ⟨medianCode, isMedianCode⟩ := median Counts.code
  obtain ⟨share, isShare⟩ := exists_of_isOk share
  obtain ⟨meanComments, isMeanComments⟩ := exists_of_isOk (means Counts.comments (by simp))
  let statistics : Statistics :=
    ⟨meanTotal, medianTotal, meanCode, medianCode, share, (Tally.largest first rest).path,
      meanComments⟩
  have numbers : Tally.HasNumbers (first :: rest) statistics :=
    ⟨isMeanTotal, isMedianTotal, isMeanCode, isMedianCode, isShare, isMeanComments⟩
  exact ⟨_, Tally.statistics_cons_eq_ok_iff.mpr ⟨statistics, rfl, numbers, rfl⟩⟩

/-- Records whose paths need every kind of escape, with means that are not whole. -/
def escapedTally : Tally :=
  [ ⟨"\"\\\n\x01".toList, ⟨1, 0, 0, 1⟩⟩,
    ⟨"\x7f\u00e9\ud7ff".toList, ⟨0, -1, 2, 1⟩⟩,
    ⟨[Char.ofNat 0x1F600], ⟨0, 0, 0, 2⟩⟩ ]

/-- Records whose paths need every kind of escape are read back from their document. -/
theorem documentText_lossless_escapedTally :
    ∃ content statistics, documentText escapedTally = .ok content ∧
      Json.ofText? content = some (documentWith escapedTally statistics) := by
  obtain ⟨statistics, finite⟩ : ∃ statistics, escapedTally.statistics = .ok statistics :=
    exists_statistics rfl (by decide +kernel) (by decide +kernel)
  obtain ⟨_, lossless⟩ := @documentText_lossless escapedTally _ (by decide +kernel) finite
  obtain ⟨content, written, _, _, isRead, _⟩ := lossless (by decide +kernel)
  exact ⟨content, _, written, isRead.trans (congrArg some (documentWith_eq _).symm)⟩

/-- Counts that can be written do not always add up to totals that the document can show. -/
theorem documentText_not_always_lossless :
    ¬ ∀ tally : Tally,
        (∀ record ∈ tally, record.counts.AreWritable) →
        (∃ statistics, tally.statistics = .ok statistics) →
        ∃ content, documentText tally = .ok content ∧ (Json.ofText? content).isSome = true := by
  intro always
  have finite : ∃ statistics, overfullTally.statistics = .ok statistics :=
    exists_statistics rfl (by decide +kernel) (by decide +kernel)
  obtain ⟨content, written, _⟩ := always overfullTally (by decide +kernel) finite
  obtain ⟨statistics, found⟩ := finite
  have tooLarge : isWritable overfullTally = false := by
    decide +kernel
  rw [documentText_of_statistics found, tooLarge] at written
  cases written

end Report

end LineTally
