import LineTally.Proofs.Run.Journal
import LineTally.Proofs.Tally.Averages
import LineTally.Proofs.Tally.Sums

namespace LineTally.Tally

/-!
# The statistics of a tally

The statistics of a tally with records are the means and medians of its columns, the share of
comment lines and the earliest record with the most lines.  They come out exactly if none of
the quotients in them is beyond the doubles, and then the order of the records matters for
none of the numbers: at most another record with as many lines is named.
-/

/-- No quotient in the statistics of a tally is beyond the doubles. -/
structure FitsDoubles
    (tally : Tally) :
    Prop where
  means :
    ∀ entry ∈ [Counts.total, Counts.code, Counts.comments],
      ¬ (tally.length : Int) ∣ (tally.column entry).sum →
      |((tally.column entry).sum : ℚ) / tally.length| < Double.overflowBound
  medians :
    ∀ entry ∈ [Counts.total, Counts.code], tally.length % 2 = 0 →
      ∀ lower upper, Average.AreMiddle (tally.column entry) lower upper →
        |((lower : ℚ) + upper) / 2| < Double.overflowBound
  share :
    tally.totals.total ≠ 0 →
      |(tally.totals.comments : ℚ) / tally.totals.total| < Double.overflowBound

/-- A record of a tally with the most lines, the earliest of all that have as many. -/
def IsLargest
    (tally : Tally)
    (record : FileRecord) :
    Prop :=
  ∃ before after, tally = before ++ record :: after ∧
    (∀ other ∈ before, other.counts.total < record.counts.total) ∧
    ∀ other ∈ after, other.counts.total ≤ record.counts.total

/-- The share of comment lines in all lines: zero without lines, and else the nearest double. -/
structure IsShare
    (tally : Tally)
    (share : Double) :
    Prop where
  zero : tally.totals.total = 0 → share = .zero false
  nearest :
    tally.totals.total ≠ 0 →
      share.IsNearest ((tally.totals.comments : ℚ) / tally.totals.total)

/-- The numbers in statistics are those of a tally. -/
structure HasNumbers
    (tally : Tally)
    (statistics : Statistics) :
    Prop where
  meanTotal : Average.mean (tally.column Counts.total) = .ok statistics.meanTotal
  medianTotal : Average.median (tally.column Counts.total) = .ok statistics.medianTotal
  meanCode : Average.mean (tally.column Counts.code) = .ok statistics.meanCode
  medianCode : Average.median (tally.column Counts.code) = .ok statistics.medianCode
  commentShare : tally.commentShare = .ok statistics.commentShare
  meanComments : Average.mean (tally.column Counts.comments) = .ok statistics.meanComments

variable
  {tally : Tally}

/-- The statistics of a tally with records have its numbers and name its largest record. -/
theorem statistics_cons_eq_ok_iff
    {first : FileRecord}
    {rest : Tally}
    {found : Option Statistics} :
    statistics (first :: rest) = .ok found ↔
      ∃ statistics, found = some statistics ∧ HasNumbers (first :: rest) statistics ∧
        statistics.largestFile = (largest first rest).path := by
  constructor
  · intro computed
    obtain ⟨meanTotal, isMeanTotal, computed⟩ := Except.bind_eq_ok_iff.mp computed
    obtain ⟨medianTotal, isMedianTotal, computed⟩ := Except.bind_eq_ok_iff.mp computed
    obtain ⟨meanCode, isMeanCode, computed⟩ := Except.bind_eq_ok_iff.mp computed
    obtain ⟨medianCode, isMedianCode, computed⟩ := Except.bind_eq_ok_iff.mp computed
    obtain ⟨share, isShare, computed⟩ := Except.bind_eq_ok_iff.mp computed
    obtain ⟨meanComments, isMeanComments, computed⟩ := Except.bind_eq_ok_iff.mp computed
    cases computed
    exact ⟨_, rfl,
      ⟨isMeanTotal, isMedianTotal, isMeanCode, isMedianCode, isShare, isMeanComments⟩, rfl⟩
  · rintro ⟨⟨meanTotal, medianTotal, meanCode, medianCode, share, name, meanComments⟩, rfl,
      numbers, rfl⟩
    simp only [statistics, numbers.meanTotal, numbers.medianTotal, numbers.meanCode,
      numbers.medianCode, numbers.commentShare, numbers.meanComments, bind, Except.bind, pure,
      Except.pure]

/-- What is found to be the largest record is the earliest with the most lines. -/
theorem isLargest_largest
    (first : FileRecord)
    (rest : Tally) :
    IsLargest (first :: rest) (largest first rest) := by
  induction rest generalizing first with
  | nil =>
      exact ⟨[], [], rfl, nofun, nofun⟩
  | cons next rest inductionHypothesis =>
      rw [largest]
      split_ifs with more
      · -- The first record has fewer lines than the next and so than the largest from there on.
        obtain ⟨before, after, split, less, most⟩ := inductionHypothesis next
        refine ⟨first :: before, after, by rw [split, List.cons_append], ?_, most⟩
        have atMost : next.counts.total ≤ (largest next rest).counts.total := by
          have member : next ∈ before ++ largest next rest :: after :=
            split ▸ List.mem_cons_self
          rcases List.mem_append.mp member with early | late
          · exact (less next early).le
          · rcases List.mem_cons.mp late with same | later
            · rw [← same]
            · exact most next later
        rw [List.forall_mem_cons]
        exact ⟨lt_of_lt_of_le more atMost, less⟩
      · obtain ⟨before, after, split, less, most⟩ := inductionHypothesis first
        cases before with
        | nil =>
            obtain ⟨same, rfl⟩ := List.cons_eq_cons.mp split
            rw [← same] at most ⊢
            refine ⟨[], next :: rest, rfl, nofun, ?_⟩
            rw [List.forall_mem_cons]
            exact ⟨not_lt.mp more, most⟩
        | cons earliest before =>
            obtain ⟨rfl, restSplit⟩ := List.cons_eq_cons.mp split
            obtain ⟨firstLess, restLess⟩ := List.forall_mem_cons.mp less
            refine ⟨first :: next :: before, after, ?_, ?_, most⟩
            · exact congrArg (fun later => first :: next :: later) restSplit
            rw [List.forall_mem_cons, List.forall_mem_cons]
            exact ⟨firstLess, lt_of_le_of_lt (not_lt.mp more) firstLess, restLess⟩

/-- No record of a tally has more lines than the largest. -/
theorem IsLargest.total_le
    {record : FileRecord}
    (isLargest : tally.IsLargest record) :
    ∀ other ∈ tally, other.counts.total ≤ record.counts.total := by
  obtain ⟨before, after, rfl, less, most⟩ := isLargest
  intro other member
  rcases List.mem_append.mp member with early | late
  · exact (less other early).le
  · rcases List.mem_cons.mp late with rfl | later
    · exact le_rfl
    · exact most other later

/-- The largest record of a tally is one of its records. -/
theorem IsLargest.mem
    {record : FileRecord}
    (isLargest : tally.IsLargest record) :
    record ∈ tally := by
  obtain ⟨before, after, rfl, _⟩ := isLargest
  simp

/-- A tally has one largest record only. -/
theorem IsLargest.unique
    {record other : FileRecord}
    (isLargest : tally.IsLargest record)
    (isLargestToo : tally.IsLargest other) :
    record = other := by
  have atMost := isLargest.total_le other isLargestToo.mem
  have atMostToo := isLargestToo.total_le record isLargest.mem
  obtain ⟨before, after, rfl, less, _⟩ := isLargest
  obtain ⟨otherBefore, otherAfter, split, otherLess, _⟩ := isLargestToo
  -- Neither is before the other one, since it would have fewer lines then.
  rcases List.append_eq_append_iff.mp split with ⟨between, split, rest⟩ | ⟨between, split, rest⟩
  · cases between with
    | nil =>
        exact (List.cons_eq_cons.mp rest).1
    | cons earliest between =>
        obtain ⟨rfl, _⟩ := List.cons_eq_cons.mp rest
        have := otherLess record (by simp [split])
        omega
  · cases between with
    | nil =>
        exact (List.cons_eq_cons.mp rest).1.symm
    | cons earliest between =>
        obtain ⟨rfl, _⟩ := List.cons_eq_cons.mp rest
        have := less other (by simp [split])
        omega

/-- The largest records of the same records in two orders have as many lines. -/
theorem IsLargest.total_eq_of_perm
    {other : Tally}
    {record otherRecord : FileRecord}
    (isLargest : tally.IsLargest record)
    (isLargestToo : other.IsLargest otherRecord)
    (same : other.Perm tally) :
    otherRecord.counts.total = record.counts.total :=
  le_antisymm (isLargest.total_le _ (same.mem_iff.mp isLargestToo.mem))
    (isLargestToo.total_le _ (same.mem_iff.mpr isLargest.mem))

/-- A share that was computed is zero or nearest to the exact one. -/
theorem isShare_of_commentShare
    {share : Double}
    (computed : tally.commentShare = .ok share) :
    tally.IsShare share := by
  rw [commentShare] at computed
  split_ifs at computed with noLines
  · cases computed
    exact ⟨fun _ => rfl, fun lines => (lines noLines).elim⟩
  · exact ⟨fun none => (noLines none).elim, fun _ => Double.isNearest_of_divide noLines computed⟩

/-- There is a share of comment lines unless it is beyond the doubles. -/
theorem exists_commentShare_iff :
    (∃ share, tally.commentShare = .ok share) ↔
      (tally.totals.total ≠ 0 →
        |(tally.totals.comments : ℚ) / tally.totals.total| < Double.overflowBound) := by
  rw [commentShare]
  split_ifs with noLines
  · simp [noLines]
  · rw [forall_prop_of_true noLines]
    exact Double.exists_divide_iff noLines

/-- The order of the records does not matter for the share of comment lines. -/
theorem commentShare_perm
    {other : Tally}
    (same : other.Perm tally) :
    other.commentShare = tally.commentShare := by
  rw [commentShare, commentShare, totals_perm same]

/-- The order of the records does not matter for the numbers in their statistics. -/
theorem HasNumbers.perm
    {other : Tally}
    {statistics : Statistics}
    (numbers : tally.HasNumbers statistics)
    (same : other.Perm tally)
    (name : Text) :
    other.HasNumbers { statistics with largestFile := name } := by
  have sameColumn (entry : Counts → Int) : (other.column entry).Perm (tally.column entry) :=
    same.map _
  constructor
  · rw [Average.mean_perm (sameColumn _), numbers.meanTotal]
  · rw [Average.median_perm (sameColumn _), numbers.medianTotal]
  · rw [Average.mean_perm (sameColumn _), numbers.meanCode]
  · rw [Average.median_perm (sameColumn _), numbers.medianCode]
  · rw [commentShare_perm same, numbers.commentShare]
  · rw [Average.mean_perm (sameColumn _), numbers.meanComments]

/-- The numbers of a tally with records are there exactly if they are all in range. -/
theorem exists_hasNumbers_iff
    (someRecords : tally ≠ []) :
    (∃ statistics, tally.HasNumbers statistics) ↔ tally.FitsDoubles := by
  have length (entry : Counts → Int) : (tally.column entry).length = tally.length :=
    List.length_map _
  have entries (entry : Counts → Int) : tally.column entry ≠ [] := by
    simpa [column] using someRecords
  have mean (entry : Counts → Int) := Average.exists_mean_iff (entries entry)
  have median (entry : Counts → Int) := Average.exists_median_iff (entries entry)
  simp only [length] at mean median
  constructor
  · rintro ⟨statistics, numbers⟩
    refine ⟨?_, ?_, exists_commentShare_iff.mp ⟨_, numbers.commentShare⟩⟩
    · simp only [List.forall_mem_cons, List.not_mem_nil, false_imp_iff, implies_true, and_true]
      exact ⟨(mean _).mp ⟨_, numbers.meanTotal⟩, (mean _).mp ⟨_, numbers.meanCode⟩,
        (mean _).mp ⟨_, numbers.meanComments⟩⟩
    · simp only [List.forall_mem_cons, List.not_mem_nil, false_imp_iff, implies_true, and_true]
      exact ⟨(median _).mp ⟨_, numbers.medianTotal⟩, (median _).mp ⟨_, numbers.medianCode⟩⟩
  · intro fits
    obtain ⟨meanTotal, isMeanTotal⟩ := (mean _).mpr (fits.means Counts.total (by simp))
    obtain ⟨medianTotal, isMedianTotal⟩ := (median _).mpr (fits.medians Counts.total (by simp))
    obtain ⟨meanCode, isMeanCode⟩ := (mean _).mpr (fits.means Counts.code (by simp))
    obtain ⟨medianCode, isMedianCode⟩ := (median _).mpr (fits.medians Counts.code (by simp))
    obtain ⟨share, isShare⟩ := exists_commentShare_iff.mpr fits.share
    obtain ⟨meanComments, isMeanComments⟩ := (mean _).mpr (fits.means Counts.comments (by simp))
    exact ⟨⟨meanTotal, medianTotal, meanCode, medianCode, share, [], meanComments⟩,
      isMeanTotal, isMedianTotal, isMeanCode, isMedianCode, isShare, isMeanComments⟩

/--
A tally with records has statistics exactly if no quotient in them is beyond the doubles.  Then
each mean is whole exactly if the number of records divides the sum of the column, and is
exact or the nearest double; each median is the middle entry of the column, or the double
nearest to half the sum of its middle two; and the file named is that of the earliest record
with the most lines.  In any other order the records have the same statistics, but for
the name, which is that of a record with as many lines.
-/
theorem statistics_exact_orderFree
    {tally : Tally}
    (someRecords : tally ≠ []) :
    ((∃ found, tally.statistics = .ok found) ↔ tally.FitsDoubles) ∧
      (tally.FitsDoubles →
        ∃ statistics largest, tally.statistics = .ok (some statistics) ∧
          Average.IsMean (tally.column Counts.total) statistics.meanTotal ∧
          Average.IsMean (tally.column Counts.code) statistics.meanCode ∧
          Average.IsMean (tally.column Counts.comments) statistics.meanComments ∧
          Average.IsMedian (tally.column Counts.total) statistics.medianTotal ∧
          Average.IsMedian (tally.column Counts.code) statistics.medianCode ∧
          tally.IsShare statistics.commentShare ∧
          tally.IsLargest largest ∧
          statistics.largestFile = largest.path ∧
          ∀ other : Tally, other.Perm tally →
            ∃ otherLargest,
              other.statistics =
                  .ok (some { statistics with largestFile := otherLargest.path }) ∧
                other.IsLargest otherLargest ∧
                otherLargest.counts.total = largest.counts.total) := by
  have entries (entry : Counts → Int) : tally.column entry ≠ [] := by
    simpa [column] using someRecords
  obtain ⟨first, rest, rfl⟩ := List.exists_cons_of_ne_nil someRecords
  have inRange := exists_hasNumbers_iff someRecords
  constructor
  · rw [← inRange]
    constructor
    · rintro ⟨found, computed⟩
      obtain ⟨statistics, _, numbers, _⟩ := statistics_cons_eq_ok_iff.mp computed
      exact ⟨statistics, numbers⟩
    · rintro ⟨statistics, numbers⟩
      have named := numbers.perm (List.Perm.refl _) (largest first rest).path
      exact ⟨_, statistics_cons_eq_ok_iff.mpr ⟨_, rfl, named, rfl⟩⟩
  · intro fits
    obtain ⟨statistics, numbers⟩ := inRange.mpr fits
    have named := numbers.perm (List.Perm.refl _) (largest first rest).path
    refine ⟨_, largest first rest, statistics_cons_eq_ok_iff.mpr ⟨_, rfl, named, rfl⟩,
      Average.isMean_of_mean (entries _) numbers.meanTotal,
      Average.isMean_of_mean (entries _) numbers.meanCode,
      Average.isMean_of_mean (entries _) numbers.meanComments,
      Average.isMedian_of_median (entries _) numbers.medianTotal,
      Average.isMedian_of_median (entries _) numbers.medianCode,
      isShare_of_commentShare numbers.commentShare, isLargest_largest first rest, rfl, ?_⟩
    intro other same
    have someOthers : other ≠ [] := by
      rintro rfl
      exact someRecords (List.nil_perm.mp same)
    obtain ⟨otherFirst, otherRest, rfl⟩ := List.exists_cons_of_ne_nil someOthers
    have otherNamed := numbers.perm same (largest otherFirst otherRest).path
    have isLargest := isLargest_largest otherFirst otherRest
    exact ⟨_, statistics_cons_eq_ok_iff.mpr ⟨_, rfl, otherNamed, rfl⟩, isLargest,
      (isLargest_largest first rest).total_eq_of_perm isLargest same⟩

/-- Two records with as many lines, and counts that are odd or negative. -/
def tiedTally : Tally :=
  [⟨"b.m".toList, ⟨1, 0, 0, 5⟩⟩, ⟨"a.m".toList, ⟨2, -3, 0, 5⟩⟩]

/-- The statistics of these records are far from the limits of the doubles. -/
theorem fitsDoubles_tiedTally : tiedTally.FitsDoubles := by
  have inRange (number : ℚ) (small : |number| ≤ 5) : |number| < Double.overflowBound := by
    calc |number|
        ≤ 5 := small
      _ < 2 ^ Double.precision - 1 / 2 := by norm_num [Double.precision]
      _ ≤ Double.overflowBound :=
          le_mul_of_one_le_right (by norm_num [Double.precision])
            (one_le_zpow₀ one_le_two (by decide))
  have total : Average.AreMiddle [5, 5] 5 5 := @Average.areMiddle_of_ascends [] [] 5 5 (by simp) rfl
  have code : Average.AreMiddle [1, 2] 1 2 := @Average.areMiddle_of_ascends [] [] 1 2 (by simp) rfl
  refine ⟨?_, ?_, ?_⟩
  · simp only [List.forall_mem_cons, List.not_mem_nil, false_imp_iff, implies_true, and_true]
    refine ⟨fun _ => inRange _ ?_, fun _ => inRange _ ?_, fun _ => inRange _ ?_⟩ <;>
      norm_num [tiedTally, column, abs_le]
  · simp only [List.forall_mem_cons, List.not_mem_nil, false_imp_iff, implies_true, and_true]
    constructor
    · intro _ lower upper areMiddle
      obtain ⟨rfl, rfl⟩ := total.unique areMiddle
      exact inRange _ (by norm_num)
    · intro _ lower upper areMiddle
      obtain ⟨rfl, rfl⟩ := code.unique areMiddle
      exact inRange _ (by norm_num [abs_le])
  · have sums : tiedTally.totals = ⟨3, -3, 0, 10⟩ := rfl
    intro _
    rw [sums]
    exact inRange _ (by norm_num [abs_le])

/-- In the other order another of the two records is named, and nothing else changes. -/
theorem statistics_exact_orderFree_tiedTally :
    ∃ statistics, tiedTally.statistics = .ok (some statistics) ∧
      statistics.meanTotal = .whole 5 ∧
      statistics.largestFile = "b.m".toList ∧
      Tally.statistics tiedTally.reverse =
        .ok (some { statistics with largestFile := "a.m".toList }) := by
  obtain ⟨_, described⟩ := @statistics_exact_orderFree tiedTally (List.cons_ne_nil _ _)
  obtain ⟨statistics, largest, computed, meanTotal, _, _, _, _, _, isLargest, named, reordered⟩ :=
    described fitsDoubles_tiedTally
  obtain ⟨otherLargest, otherComputed, otherIsLargest, _⟩ :=
    reordered tiedTally.reverse (List.reverse_perm _)
  refine ⟨statistics, computed, ?_, ?_, ?_⟩
  · obtain ⟨mean, isMean⟩ := meanTotal.whole_iff.mpr (by decide)
    have exact := meanTotal.exact mean isMean
    have five : (2 : Int) * mean = 10 := exact
    rw [isMean, show mean = 5 by omega]
  · rw [named, isLargest.unique (isLargest_largest _ _)]
    rfl
  · rw [otherComputed, otherIsLargest.unique (isLargest_largest _ _)]
    rfl

end LineTally.Tally
