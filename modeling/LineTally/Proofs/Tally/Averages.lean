import LineTally.Proofs.Number.Nearest
import Mathlib.Data.List.GetD
import Mathlib.Data.List.Perm.Subperm
import Mathlib.Data.List.Sort

namespace LineTally.Average

/-!
# Means and medians

The mean of a column is whole exactly if the number of entries divides their sum.  Its
median is the entry with half of the others on either side, or half the sum of two entries
with all others outside of them.  Neither depends on the order of the entries, and both
come out unless a quotient is beyond the doubles.
-/

/-- An average that is a quotient is found exactly if the quotient is. -/
theorem map_fraction_eq_ok_iff
    {divided : Except NumberFault Double}
    {average : Average} :
    divided.map .fraction = .ok average ↔
      ∃ quotient, divided = .ok quotient ∧ average = .fraction quotient := by
  cases divided <;> simp [Except.map, eq_comm]

/-!
## Means
-/

/-- What the mean of a column is: whole if that is exact, and else the nearest double. -/
structure IsMean
    (column : List Int)
    (average : Average) :
    Prop where
  whole_iff : (∃ mean, average = .whole mean) ↔ (column.length : Int) ∣ column.sum
  exact : ∀ mean, average = .whole mean → column.length * mean = column.sum
  nearest :
    ∀ mean, average = .fraction mean → mean.IsNearest ((column.sum : ℚ) / column.length)

section Mean

variable
  {column : List Int}

/-- The mean of a column by its sum. -/
theorem mean_eq
    (column : List Int) :
    mean column =
      if (column.length : Int) ∣ column.sum then
        .ok (.whole (column.sum / column.length))
      else
        (Double.divide column.sum column.length).map .fraction := by
  simp only [mean, ← List.sum_eq_foldl, Int.dvd_iff_emod_eq_zero]

/-- A column that has entries has a mean unless it is beyond the doubles. -/
theorem exists_mean_iff
    (entries : column ≠ []) :
    (∃ average, mean column = .ok average) ↔
      (¬ (column.length : Int) ∣ column.sum →
        |(column.sum : ℚ) / column.length| < Double.overflowBound) := by
  have nonzero : (column.length : Int) ≠ 0 := by
    simpa using entries
  rw [mean_eq]
  split_ifs with divides
  · simp [divides]
  · have inRange := @Double.exists_divide_iff column.sum column.length nonzero
    rw [Int.cast_natCast] at inRange
    rw [← inRange, forall_prop_of_true divides]
    simp only [map_fraction_eq_ok_iff]
    exact exists_comm.trans (by simp)

/-- The mean that a column has is whole or nearest to the exact one. -/
theorem isMean_of_mean
    {average : Average}
    (entries : column ≠ [])
    (found : mean column = .ok average) :
    IsMean column average := by
  have nonzero : (column.length : Int) ≠ 0 := by
    simpa using entries
  rw [mean_eq] at found
  split_ifs at found with divides
  · cases found
    refine ⟨iff_of_true ⟨_, rfl⟩ divides, ?_, nofun⟩
    rintro _ ⟨⟩
    exact Int.mul_ediv_cancel' divides
  · obtain ⟨quotient, divided, rfl⟩ := map_fraction_eq_ok_iff.mp found
    refine ⟨iff_of_false nofun divides, nofun, ?_⟩
    rintro _ ⟨⟩
    have nearest := Double.isNearest_of_divide nonzero divided
    rwa [Int.cast_natCast] at nearest

/-- The order of the entries does not matter for their mean. -/
theorem mean_perm
    {other : List Int}
    (same : other.Perm column) :
    mean other = mean column := by
  rw [mean_eq, mean_eq, same.length_eq, same.sum_eq]

end Mean

/-!
## Medians
-/

/-- An entry of a column with at most half of the others on either side of it. -/
structure IsMiddle
    (column : List Int)
    (middle : Int) :
    Prop where
  entry : middle ∈ column
  below : column.countP (fun entry => entry < middle) ≤ (column.length - 1) / 2
  above : column.countP (fun entry => middle < entry) ≤ (column.length - 1) / 2

/--
Two entries of a column with none between them and fewer than half of all below or above both
of them; at most half are below the upper or above the lower one, so they are the middle two.
-/
structure AreMiddle
    (column : List Int)
    (lower upper : Int) :
    Prop where
  entries : [lower, upper].Subperm column
  ordered : lower ≤ upper
  below : column.countP (fun entry => entry < lower) ≤ column.length / 2 - 1
  above : column.countP (fun entry => upper < entry) ≤ column.length / 2 - 1
  between : ∀ entry ∈ column, ¬ (lower < entry ∧ entry < upper)
  belowUpper : column.countP (fun entry => entry < upper) ≤ column.length / 2
  aboveLower : column.countP (fun entry => lower < entry) ≤ column.length / 2

/-- What the median of a column is: the middle entry, or the double nearest to half a sum. -/
structure IsMedian
    (column : List Int)
    (average : Average) :
    Prop where
  odd : column.length % 2 = 1 → ∃ middle, average = .whole middle ∧ IsMiddle column middle
  even :
    column.length % 2 = 0 →
      ∃ lower upper half, AreMiddle column lower upper ∧ average = .fraction half ∧
        half.IsNearest ((lower + upper : ℚ) / 2)

section Median

variable
  {column : List Int}

/-- Of entries in order, those before one are all that can be below it. -/
theorem countP_lt_le
    {front back : List Int}
    {entry : Int}
    (ascends : (front ++ entry :: back).Pairwise (· ≤ ·)) :
    (front ++ entry :: back).countP (fun other => other < entry) ≤ front.length := by
  have notBelow : (entry :: back).countP (fun other => other < entry) = 0 := by
    have fromEntry := (List.pairwise_append.mp ascends).2.1
    rw [List.countP_eq_zero]
    intro other member
    rcases List.mem_cons.mp member with rfl | later
    · simp
    · simpa using List.rel_of_pairwise_cons fromEntry later
  rw [List.countP_append, notBelow, Nat.add_zero]
  exact List.countP_le_length

/-- Of entries in order, those after one are all that can be above it. -/
theorem countP_gt_le
    {front back : List Int}
    {entry : Int}
    (ascends : (front ++ entry :: back).Pairwise (· ≤ ·)) :
    (front ++ entry :: back).countP (fun other => entry < other) ≤ back.length := by
  have notAbove : front.countP (fun other => entry < other) = 0 := by
    have upToEntry := (List.pairwise_append.mp ascends).2.2
    rw [List.countP_eq_zero]
    intro other member
    simpa using upToEntry other member entry List.mem_cons_self
  rw [List.countP_append, notAbove, Nat.zero_add, List.countP_cons_of_neg (by simp)]
  exact List.countP_le_length

/-- The entry in the middle of some that are in order is a middle entry. -/
theorem isMiddle_of_ascends
    {front back : List Int}
    {middle : Int}
    (ascends : (front ++ middle :: back).Pairwise (· ≤ ·))
    (balanced : front.length = back.length) :
    IsMiddle (front ++ middle :: back) middle := by
  have half : ((front ++ middle :: back).length - 1) / 2 = front.length := by
    simp only [List.length_append, List.length_cons]
    omega
  refine ⟨by simp, ?_, ?_⟩
  · rw [half]
    exact countP_lt_le ascends
  · rw [half, balanced]
    exact countP_gt_le ascends

/-- The two entries in the middle of some that are in order are the middle entries. -/
theorem areMiddle_of_ascends
    {front back : List Int}
    {lower upper : Int}
    (ascends : (front ++ lower :: upper :: back).Pairwise (· ≤ ·))
    (balanced : front.length = back.length) :
    AreMiddle (front ++ lower :: upper :: back) lower upper := by
  have half : (front ++ lower :: upper :: back).length / 2 = front.length + 1 := by
    simp only [List.length_append, List.length_cons]
    omega
  have regroup : front ++ lower :: upper :: back = (front ++ [lower]) ++ upper :: back := by
    rw [List.append_assoc, List.singleton_append]
  have fromLower := (List.pairwise_append.mp ascends).2.1
  have ordered : lower ≤ upper := List.rel_of_pairwise_cons fromLower List.mem_cons_self
  have belowLower := countP_lt_le ascends
  have aboveLower := countP_gt_le ascends
  have belowUpper := countP_lt_le (regroup ▸ ascends)
  have aboveUpper := countP_gt_le (regroup ▸ ascends)
  rw [← regroup] at belowUpper aboveUpper
  rw [List.length_append, List.length_singleton] at belowUpper
  rw [List.length_cons] at aboveLower
  refine ⟨?_, ordered, by omega, by omega, ?_, by omega, by omega⟩
  · have two : [lower, upper].Sublist (lower :: upper :: back) := by
      simp
    exact (two.trans (List.sublist_append_right front _)).subperm
  · rintro entry member ⟨above, below⟩
    have outside : entry ≤ lower ∨ upper ≤ entry := by
      rcases List.mem_append.mp member with inFront | atLower
      · exact .inl ((List.pairwise_append.mp ascends).2.2 entry inFront lower List.mem_cons_self)
      · rcases List.mem_cons.mp atLower with rfl | atUpper
        · exact .inl le_rfl
        · rcases List.mem_cons.mp atUpper with rfl | inBack
          · exact .inr le_rfl
          · exact .inr (List.rel_of_pairwise_cons fromLower.of_cons inBack)
    omega

/-- A middle entry is one whatever the order of the entries. -/
theorem IsMiddle.perm
    {other : List Int}
    {middle : Int}
    (isMiddle : IsMiddle column middle)
    (same : column.Perm other) :
    IsMiddle other middle where
  entry := same.mem_iff.mp isMiddle.entry
  below := by
    rw [← same.countP_eq, ← same.length_eq]
    exact isMiddle.below
  above := by
    rw [← same.countP_eq, ← same.length_eq]
    exact isMiddle.above

/-- Two middle entries are such whatever the order of the entries. -/
theorem AreMiddle.perm
    {other : List Int}
    {lower upper : Int}
    (areMiddle : AreMiddle column lower upper)
    (same : column.Perm other) :
    AreMiddle other lower upper where
  entries := areMiddle.entries.trans same.subperm
  ordered := areMiddle.ordered
  below := by
    rw [← same.countP_eq, ← same.length_eq]
    exact areMiddle.below
  above := by
    rw [← same.countP_eq, ← same.length_eq]
    exact areMiddle.above
  between entry member := areMiddle.between entry (same.mem_iff.mpr member)
  belowUpper := by
    rw [← same.countP_eq, ← same.length_eq]
    exact areMiddle.belowUpper
  aboveLower := by
    rw [← same.countP_eq, ← same.length_eq]
    exact areMiddle.aboveLower

/-- Every entry is above the less of two numbers or below the greater one. -/
theorem length_le_countP
    (column : List Int)
    {less greater : Int}
    (ordered : less < greater) :
    column.length ≤
      column.countP (fun entry => less < entry)
        + column.countP (fun entry => entry < greater) := by
  have parts := List.length_eq_countP_add_countP (l := column) fun entry => decide (less < entry)
  have notAbove :
      column.countP (fun entry => ¬ decide (less < entry)) ≤
        column.countP (fun entry => entry < greater) := by
    apply List.countP_mono_left
    intro entry _ upToLess
    simp only [decide_eq_true_eq, not_lt] at upToLess ⊢
    omega
  omega

/-- Of two pairs of middle entries neither one is below the other. -/
theorem AreMiddle.le
    {lower upper otherLower otherUpper : Int}
    (areMiddle : AreMiddle column lower upper)
    (areMiddleToo : AreMiddle column otherLower otherUpper) :
    otherLower ≤ lower ∧ otherUpper ≤ upper := by
  have two := areMiddle.entries.length_le
  simp only [List.length_cons, List.length_nil] at two
  constructor
  · by_contra less
    have all := length_le_countP column (not_le.mp less)
    have := areMiddle.aboveLower
    have := areMiddleToo.below
    omega
  · by_contra less
    have all := length_le_countP column (not_le.mp less)
    have := areMiddle.above
    have := areMiddleToo.belowUpper
    omega

/-- A column has one pair of middle entries only. -/
theorem AreMiddle.unique
    {lower upper otherLower otherUpper : Int}
    (areMiddle : AreMiddle column lower upper)
    (areMiddleToo : AreMiddle column otherLower otherUpper) :
    lower = otherLower ∧ upper = otherUpper :=
  ⟨le_antisymm (areMiddleToo.le areMiddle).1 (areMiddle.le areMiddleToo).1,
    le_antisymm (areMiddleToo.le areMiddle).2 (areMiddle.le areMiddleToo).2⟩

/-- Entries that have been sorted are in order. -/
theorem pairwise_sorted
    (column : List Int) :
    column.mergeSort.Pairwise (· ≤ ·) :=
  List.pairwise_mergeSort' (· ≤ ·) column

/-- Entries are those before a place, the one at the place and those after it. -/
theorem eq_take_getD_drop
    {entries : List Int}
    {place : Nat}
    (isPlace : place < entries.length) :
    entries = entries.take place ++ entries.getD place 0 :: entries.drop (place + 1) := by
  rw [List.getD_eq_getElem _ _ isPlace, List.getElem_cons_drop, List.take_append_drop]

/-- The median of an odd number of entries is the middle one. -/
theorem median_odd
    (odd : column.length % 2 = 1) :
    ∃ middle, IsMiddle column middle ∧ median column = .ok (.whole middle) := by
  have sorted := List.mergeSort_perm column fun a b => decide (a ≤ b)
  have ascends := pairwise_sorted column
  simp only [median, sorted.length_eq, odd, ↓reduceIte]
  refine ⟨_, IsMiddle.perm ?_ sorted, rfl⟩
  have size := sorted.length_eq
  generalize column.mergeSort = entries at *
  have split := @eq_take_getD_drop entries (column.length / 2) (by omega)
  rw [split] at ascends
  have middle := isMiddle_of_ascends ascends (by
    rw [List.length_take, List.length_drop]
    omega)
  rwa [← split] at middle

/-- The median of an even number of entries is half the sum of the middle two. -/
theorem median_even
    (entries : column ≠ [])
    (even : column.length % 2 = 0) :
    ∃ lower upper, AreMiddle column lower upper ∧
      median column = (Double.divide (lower + upper) 2).map .fraction := by
  have sorted := List.mergeSort_perm column fun a b => decide (a ≤ b)
  have ascends := pairwise_sorted column
  have positive := List.length_pos_of_ne_nil entries
  simp only [median, sorted.length_eq, even, Nat.zero_ne_one, ↓reduceIte]
  refine ⟨_, _, AreMiddle.perm ?_ sorted, rfl⟩
  have size := sorted.length_eq
  generalize column.mergeSort = entries at *
  have split := @eq_take_getD_drop entries (column.length / 2 - 1) (by omega)
  have next : entries.drop (column.length / 2 - 1 + 1) =
      entries.getD (column.length / 2) 0 :: entries.drop (column.length / 2 + 1) := by
    rw [Nat.sub_add_cancel (by omega), List.getD_eq_getElem _ _ (by omega),
      List.getElem_cons_drop]
  rw [next] at split
  rw [split] at ascends
  have middle := areMiddle_of_ascends ascends (by
    rw [List.length_take, List.length_drop]
    omega)
  rwa [← split] at middle

/-- A column that has entries has a median unless it is beyond the doubles. -/
theorem exists_median_iff
    (entries : column ≠ []) :
    (∃ average, median column = .ok average) ↔
      (column.length % 2 = 0 → ∀ lower upper, AreMiddle column lower upper →
        |((lower : ℚ) + upper) / 2| < Double.overflowBound) := by
  rcases Nat.mod_two_eq_zero_or_one column.length with even | odd
  · obtain ⟨lower, upper, areMiddle, isMedian⟩ := median_even entries even
    have inRange := @Double.exists_divide_iff (lower + upper) 2 two_ne_zero
    rw [Int.cast_add, Int.cast_ofNat] at inRange
    constructor
    · rintro ⟨average, found⟩ _ otherLower otherUpper areMiddleToo
      obtain ⟨rfl, rfl⟩ := areMiddle.unique areMiddleToo
      rw [← inRange]
      rw [isMedian] at found
      obtain ⟨half, divided, _⟩ := map_fraction_eq_ok_iff.mp found
      exact ⟨half, divided⟩
    · intro fits
      obtain ⟨half, divided⟩ := inRange.mpr (fits even lower upper areMiddle)
      exact ⟨.fraction half, by rw [isMedian, divided]; rfl⟩
  · obtain ⟨middle, _, isMedian⟩ := median_odd odd
    refine iff_of_true ⟨_, isMedian⟩ ?_
    intro even
    omega

/-- The median that a column has is its middle entry or nearest to half the middle two. -/
theorem isMedian_of_median
    {average : Average}
    (entries : column ≠ [])
    (found : median column = .ok average) :
    IsMedian column average where
  odd odd := by
    obtain ⟨middle, isMiddle, isMedian⟩ := median_odd odd
    rw [isMedian] at found
    cases found
    exact ⟨middle, rfl, isMiddle⟩
  even even := by
    obtain ⟨lower, upper, areMiddle, isMedian⟩ := median_even entries even
    rw [isMedian] at found
    obtain ⟨half, divided, rfl⟩ := map_fraction_eq_ok_iff.mp found
    have nearest := Double.isNearest_of_divide two_ne_zero divided
    rw [Int.cast_add, Int.cast_ofNat] at nearest
    exact ⟨lower, upper, half, areMiddle, rfl, nearest⟩

/-- The order of the entries does not matter for their median. -/
theorem median_perm
    {other : List Int}
    (same : other.Perm column) :
    median other = median column := by
  have sorted : other.mergeSort = column.mergeSort := by
    have samePerm : other.mergeSort.Perm column.mergeSort :=
      (List.mergeSort_perm _ _).trans (same.trans (List.mergeSort_perm _ _).symm)
    exact samePerm.eq_of_pairwise (fun _ _ _ _ => le_antisymm) (pairwise_sorted other)
      (pairwise_sorted column)
  rw [median, median, sorted]

end Median

end LineTally.Average
