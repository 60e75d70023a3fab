import LineTally.Number.Shortest
import LineTally.Proofs.Number.Decimal
import LineTally.Proofs.Number.Rounding
import Mathlib.Algebra.Order.Field.Power
import Mathlib.Tactic.Linarith
import Mathlib.Tactic.NormNum
import Mathlib.Tactic.Positivity
import Mathlib.Tactic.Qify
import Mathlib.Tactic.Ring

namespace LineTally.Double

/-!
# The search for the shortest notation

Whatever the search takes lies in the interval of the numbers that round to the double.
It always takes something: a unit of seventeen digits is so small that the nearest of its
multiples lies in the interval, the gap to the next double being larger.
-/

/-- A power with a whole exponent, as a fraction of natural powers. -/
theorem pow_toNat_div
    {base : ℚ}
    (nonzero : base ≠ 0)
    (power : Int) :
    base ^ power.toNat / base ^ (-power).toNat = base ^ power := by
  rw [← zpow_natCast, ← zpow_natCast, ← zpow_sub₀ nonzero]
  congr 1
  omega

/-!
## The interval in terms of exact numbers
-/

section Interval

variable
  {mantissa : Nat}
  {exponent : Int}

/-- The denominator of a rounding is positive. -/
theorem rounding_denominator_pos :
    0 < (rounding mantissa exponent).denominator := by
  simp only [rounding, Nat.pow_eq]
  positivity

/-- Quarters of a unit as a fraction. -/
theorem quarters_eq
    (count : ℚ) :
    count * 2 ^ (exponent - 2).toNat / 2 ^ (-(exponent - 2)).toNat = count / 4 * 2 ^ exponent := by
  rw [mul_div_assoc, pow_toNat_div two_ne_zero, zpow_sub₀ two_ne_zero]
  norm_num
  ring

/-- The value of an interval is the double itself. -/
theorem rounding_value :
    ((rounding mantissa exponent).value : ℚ) / (rounding mantissa exponent).denominator =
      mantissa * 2 ^ exponent := by
  simp only [rounding, Nat.pow_eq, Nat.cast_mul, Nat.cast_pow, Nat.cast_ofNat, quarters_eq]
  ring

/-- The upper bound of a rounding is half a unit above its double. -/
theorem rounding_high :
    ((rounding mantissa exponent).high : ℚ) / (rounding mantissa exponent).denominator =
      (mantissa + 1 / 2) * 2 ^ exponent := by
  simp only [rounding, Nat.pow_eq, Nat.cast_mul, Nat.cast_add, Nat.cast_pow, Nat.cast_ofNat,
    quarters_eq]
  ring

/-- The lower bound of a rounding is below its double by the gap there. -/
theorem rounding_low
    (positive : 0 < mantissa) :
    ((rounding mantissa exponent).low : ℚ) / (rounding mantissa exponent).denominator =
      (mantissa - gapBelow mantissa exponent) * 2 ^ exponent := by
  simp only [rounding, gapBelow, Nat.pow_eq, Bool.and_eq_true, decide_eq_true_eq]
  split_ifs
  · rw [Nat.cast_mul, Nat.cast_sub (by omega)]
    push_cast
    rw [quarters_eq]
    ring
  · rw [Nat.cast_mul, Nat.cast_sub (by omega)]
    push_cast
    rw [quarters_eq]
    ring

end Interval

namespace Rounding

section Holds

variable
  {unitDenominator denominator : Nat}

/-- Two fractions compare as the products across. -/
theorem cross_le
    (bound point unitNumerator : Nat)
    (positiveUnit : 0 < unitDenominator)
    (positive : 0 < denominator) :
    bound * unitDenominator ≤ point * unitNumerator * denominator ↔
      (bound : ℚ) / denominator ≤ point * ((unitNumerator : ℚ) / unitDenominator) := by
  rw [mul_div_assoc', div_le_div_iff₀ (by exact_mod_cast positive) (by exact_mod_cast positiveUnit)]
  exact_mod_cast Iff.rfl

/-- A bound is at least a number of units exactly if their cross products say so. -/
theorem cross_ge
    (bound point unitNumerator : Nat)
    (positiveUnit : 0 < unitDenominator)
    (positive : 0 < denominator) :
    point * unitNumerator * denominator ≤ bound * unitDenominator ↔
      point * ((unitNumerator : ℚ) / unitDenominator) ≤ (bound : ℚ) / denominator := by
  rw [mul_div_assoc', div_le_div_iff₀ (by exact_mod_cast positiveUnit) (by exact_mod_cast positive)]
  exact_mod_cast Iff.rfl

end Holds

section Search

variable
  {mantissa : Nat}
  {exponent : Int}

/-- An interval holds what rounds to its double. -/
theorem holds_iff
    (positive : 0 < mantissa)
    (digits : Nat)
    (power : Int) :
    (rounding mantissa exponent).holds digits (Nat.pow 10 power.toNat)
        (Nat.pow 10 (-power).toNat) = true ↔
      RoundsTo (digits * 10 ^ power) mantissa exponent := by
  have unitPos : 0 < 10 ^ (-power).toNat := by positivity
  have scale : (0 : ℚ) < 2 ^ exponent := by positivity
  have isUnit : ((10 ^ power.toNat : Nat) : ℚ) / (10 ^ (-power).toNat : Nat) = 10 ^ power := by
    push_cast
    exact pow_toNat_div (by norm_num) power
  have notBelow (bound : Nat) := cross_le bound digits (10 ^ power.toNat) unitPos
    (@rounding_denominator_pos mantissa exponent)
  have notAbove (bound : Nat) := cross_ge bound digits (10 ^ power.toNat) unitPos
    (@rounding_denominator_pos mantissa exponent)
  rw [isUnit] at notBelow notAbove
  have isClosed : (rounding mantissa exponent).closed = decide (mantissa % 2 = 0) := rfl
  simp only [holds, Nat.pow_eq, isClosed, decide_eq_true_eq]
  split_ifs with even
  · rw [Bool.and_eq_true, decide_eq_true_eq, decide_eq_true_eq, notBelow, notAbove,
      rounding_low positive, rounding_high, ← le_div_iff₀ scale, ← div_le_iff₀ scale]
    exact ⟨fun within => ⟨within.1, within.2, by omega⟩, fun rounds => ⟨rounds.lower, rounds.upper⟩⟩
  · rw [Bool.and_eq_true, decide_eq_true_eq, decide_eq_true_eq, ← not_le, ← not_le, notBelow,
      notAbove, not_le, not_le, rounding_low positive, rounding_high, ← lt_div_iff₀ scale,
      ← div_lt_iff₀ scale]
    exact ⟨fun within => ⟨within.1.le, within.2.le, fun _ => within⟩,
      fun rounds => rounds.inside (by omega)⟩

/-- What is picked rounds to the double. -/
theorem roundsTo_of_pick
    (positive : 0 < mantissa)
    {digits : Nat}
    {power : Int}
    (picked : (rounding mantissa exponent).pick? power = some digits) :
    RoundsTo (digits * 10 ^ power) mantissa exponent := by
  rw [← holds_iff positive]
  simp only [pick?] at picked
  split_ifs at picked <;>
    · cases picked
      assumption

/-- What is nearer to a double than one part in twice ten to the sixteenth rounds to it. -/
theorem roundsTo_of_near
    {number : ℚ}
    (positive : 0 < mantissa)
    (short : mantissa < 2 ^ precision)
    (near : |number / 2 ^ exponent - mantissa| * (2 * 10 ^ 16) ≤ mantissa) :
    RoundsTo number mantissa exponent := by
  norm_num only at near
  have positive' : (0 : ℚ) < mantissa := by exact_mod_cast positive
  have short' : (mantissa : ℚ) < 2 ^ precision := by exact_mod_cast short
  have inGap : |number / 2 ^ exponent - mantissa| < gapBelow mantissa exponent := by
    simp only [gapBelow]
    split_ifs with narrow
    · have : (mantissa : ℚ) = 2 ^ (precision - 1) := by exact_mod_cast narrow.1
      norm_num [precision] at this
      linarith
    · norm_num only [precision] at short'
      linarith
  have gap := (gapBelow_bounds mantissa exponent).2
  rw [abs_lt] at inGap
  have lower : mantissa - gapBelow mantissa exponent < number / 2 ^ exponent := by linarith
  have upper : number / 2 ^ exponent < mantissa + 1 / 2 := by linarith
  exact ⟨lower.le, upper.le, fun _ => ⟨lower, upper⟩⟩

/-- Seventeen digits are enough. -/
theorem pick?_isSome
    (positive : 0 < mantissa)
    (short : mantissa < 2 ^ precision)
    {power : Int}
    (small : (10 : ℚ) ^ (power + 16) ≤ mantissa * 2 ^ exponent) :
    ((rounding mantissa exponent).pick? power).isSome = true := by
  have unitPos : (0 : ℚ) < 10 ^ power := by positivity
  have scale : (0 : ℚ) < 2 ^ exponent := by positivity
  have denominatorPos := @rounding_denominator_pos mantissa exponent
  have scaledPos : 0 < (rounding mantissa exponent).denominator * 10 ^ power.toNat := by positivity
  have distance := @abs_sub_nearest_le
    ((rounding mantissa exponent).value * 10 ^ (-power).toNat) _ scaledPos
  have quotient :
      (((rounding mantissa exponent).value * 10 ^ (-power).toNat : Nat) : ℚ)
          / ((rounding mantissa exponent).denominator * 10 ^ power.toNat : Nat) =
        mantissa * 2 ^ exponent / 10 ^ power := by
    rw [← rounding_value, ← pow_toNat_div (by norm_num : (10 : ℚ) ≠ 0) power]
    push_cast
    field_simp
  rw [quotient] at distance
  simp only [pick?, Nat.pow_eq]
  generalize nearest ((rounding mantissa exponent).value * 10 ^ (-power).toNat)
    ((rounding mantissa exponent).denominator * 10 ^ power.toNat) = near at *
  -- Half a unit of the seventeenth digit is less than what the double's interval spans.
  have rounds : RoundsTo (near * 10 ^ power) mantissa exponent := by
    apply roundsTo_of_near positive short
    have inUnits : (near : ℚ) * 10 ^ power / 2 ^ exponent - mantissa =
        -(mantissa * 2 ^ exponent / 10 ^ power - near) * (10 ^ power / 2 ^ exponent) := by
      field_simp
      ring
    rw [inUnits, abs_mul, abs_neg, abs_of_pos (div_pos unitPos scale)]
    calc |(mantissa : ℚ) * 2 ^ exponent / 10 ^ power - near| * (10 ^ power / 2 ^ exponent)
          * (2 * 10 ^ 16)
        ≤ 1 / 2 * (10 ^ power / 2 ^ exponent) * (2 * 10 ^ 16) := by gcongr
      _ = 10 ^ (power + 16) / 2 ^ exponent := by
          rw [zpow_add₀ (by norm_num)]
          ring
      _ ≤ mantissa := by rwa [div_le_iff₀ scale]
  have held := (holds_iff positive near power).mpr rounds
  rw [Nat.pow_eq, Nat.pow_eq] at held
  rw [if_pos held, Option.isSome_some]

/-- If the fuel reaches a power of ten that has a hit, the search finds one, there or before. -/
theorem search_spec
    (interval : Rounding)
    {fuel : Nat}
    {power last : Int}
    (below : last ≤ power)
    (reached : power - last < fuel)
    (hit : (interval.pick? last).isSome = true) :
    interval.pick? (interval.search fuel power).power = some (interval.search fuel power).digits ∧
      last ≤ (interval.search fuel power).power ∧ (interval.search fuel power).power ≤ power := by
  -- The search goes down one power at a time, so it cannot pass the one that has a hit.
  induction fuel generalizing power with
  | zero =>
      omega
  | succ fuel inductionHypothesis =>
      cases picked : interval.pick? power with
      | some digits =>
          simp only [search, picked]
          exact ⟨trivial, below, le_rfl⟩
      | none =>
          have strict : last ≠ power := by
            rintro rfl
            simp [picked] at hit
          obtain ⟨found, lower, upper⟩ :=
            @inductionHypothesis (power - 1) (by omega) (by omega)
          simp only [search, picked]
          exact ⟨found, lower, by omega⟩

/-- The leading power of ten of a positive number. -/
theorem leadingPower_spec
    {interval : Rounding}
    (positiveValue : 0 < interval.value)
    (positiveDenominator : 0 < interval.denominator) :
    (10 : ℚ) ^ interval.leadingPower ≤ interval.value / interval.denominator ∧
      (interval.value : ℚ) / interval.denominator < 10 ^ (interval.leadingPower + 1) := by
  have positive : (0 : ℚ) < interval.denominator := by exact_mod_cast positiveDenominator
  rw [leadingPower]
  split_ifs with large
  · have wholePos : 0 < interval.value / interval.denominator :=
      Nat.div_pos large positiveDenominator
    obtain ⟨lower, upper⟩ := Decimal.length_ofNat_bounds wholePos
    have lengthPos := List.length_pos_iff.mpr
      (Decimal.ofNat_ne_nil (interval.value / interval.denominator))
    generalize (Decimal.ofNat (interval.value / interval.denominator)).length = places at *
    rw [Nat.le_div_iff_mul_le positiveDenominator] at lower
    rw [Nat.div_lt_iff_lt_mul positiveDenominator] at upper
    obtain ⟨before, rfl⟩ := Nat.exists_eq_add_one_of_ne_zero lengthPos.ne'
    constructor
    · rw [le_div_iff₀ positive]
      push_cast
      simp only [add_sub_cancel_right, Nat.add_sub_cancel, zpow_natCast] at lower ⊢
      exact_mod_cast lower
    · rw [div_lt_iff₀ positive]
      push_cast
      simp only [add_sub_cancel_right]
      exact_mod_cast upper
  · -- One over the number is above the quotient that is taken, and at most one more.
    have positiveValue' : (0 : ℚ) < interval.value := by exact_mod_cast positiveValue
    have wholePos : 0 < (interval.denominator - 1) / interval.value :=
      Nat.div_pos (by omega) positiveValue
    have atMost := Nat.div_mul_le_self (interval.denominator - 1) interval.value
    have oneMore := @Nat.lt_div_mul_add (interval.denominator - 1) _ positiveValue
    obtain ⟨lower, upper⟩ := Decimal.length_ofNat_bounds wholePos
    have lengthPos := List.length_pos_iff.mpr
      (Decimal.ofNat_ne_nil ((interval.denominator - 1) / interval.value))
    simp only []
    generalize (Decimal.ofNat ((interval.denominator - 1) / interval.value)).length = places at *
    generalize (interval.denominator - 1) / interval.value = whole at *
    obtain ⟨before, rfl⟩ := Nat.exists_eq_add_one_of_ne_zero lengthPos.ne'
    have aboveWhole : whole * interval.value < interval.denominator := by omega
    have notAboveNext : interval.denominator ≤ (whole + 1) * interval.value := by
      rw [Nat.add_mul]
      omega
    have lowPower : 10 ^ before * interval.value < interval.denominator :=
      lt_of_le_of_lt (Nat.mul_le_mul_right _ lower) aboveWhole
    have highPower : interval.denominator ≤ 10 ^ (before + 1) * interval.value :=
      le_trans notAboveNext (Nat.mul_le_mul_right _ upper)
    qify at lowPower highPower
    constructor
    · rw [zero_sub, zpow_neg, zpow_natCast, le_div_iff₀ positive, inv_mul_le_iff₀ (by positivity)]
      exact highPower
    · have next : (0 : Int) - (before + 1 : Nat) + 1 = -(before : Int) := by
        push_cast
        ring
      rw [div_lt_iff₀ positive, next, zpow_neg, zpow_natCast, lt_inv_mul_iff₀ (by positivity)]
      exact lowPower

end Search

end Rounding

section Shortest

variable
  {mantissa : Nat}
  {exponent : Int}

/-- Thirteen bits are less than four decimal digits. -/
theorem two_pow_le_ten_pow
    (count : Nat) :
    (2 : ℚ) ^ (13 * count : Int) ≤ 10 ^ (4 * count : Int) := by
  rw [zpow_mul, zpow_mul, zpow_natCast, zpow_natCast]
  exact pow_le_pow_left₀ (by positivity) (by norm_num) count

/-- The size of a positive double. -/
theorem IsRounded.bounds
    (rounded : IsRounded mantissa exponent)
    (positive : 0 < mantissa) :
    (10 : ℚ) ^ (-332 : Int) ≤ mantissa * 2 ^ exponent ∧
      ((mantissa : ℚ) + 1) * 2 ^ exponent ≤ 10 ^ (316 : Int) := by
  have atLeastOne : (1 : ℚ) ≤ mantissa := by exact_mod_cast positive
  have atMost : (mantissa : ℚ) + 1 ≤ 2 ^ precision := by exact_mod_cast rounded.mantissa_lt
  constructor
  · calc (10 : ℚ) ^ (-332 : Int)
        = 10 ^ (-(4 * (83 : Nat)) : Int) := congrArg _ (by decide)
      _ ≤ 2 ^ (-(13 * (83 : Nat)) : Int) := by
          rw [zpow_neg, zpow_neg]
          exact inv_anti₀ (by positivity) (two_pow_le_ten_pow 83)
      _ ≤ 2 ^ exponent :=
          zpow_le_zpow_right₀ one_le_two (le_trans (by decide) rounded.le_exponent)
      _ ≤ mantissa * 2 ^ exponent := le_mul_of_one_le_left (by positivity) atLeastOne
  · calc ((mantissa : ℚ) + 1) * 2 ^ exponent
        ≤ 2 ^ precision * 2 ^ exponent := by gcongr
      _ = 2 ^ (precision + exponent) := by
          rw [← zpow_natCast, ← zpow_add₀ two_ne_zero]
      _ ≤ 2 ^ (13 * (79 : Nat) : Int) := by
          apply zpow_le_zpow_right₀ one_le_two
          have := rounded.exponent_le
          simp only [precision, maxExponent] at this ⊢
          omega
      _ ≤ 10 ^ (316 : Int) := two_pow_le_ten_pow 79

/-- What rounds to a double lies below the next one. -/
theorem RoundsTo.lt_next
    {number : ℚ}
    (rounds : RoundsTo number mantissa exponent) :
    number < (mantissa + 1) * 2 ^ exponent := by
  have upper := rounds.upper
  rw [div_le_iff₀ (by positivity)] at upper
  refine upper.trans_lt ?_
  gcongr
  norm_num

/-- The shortest notation rounds to the double; its digits are few and its power is not small. -/
theorem shortest_spec
    (rounded : IsRounded mantissa exponent)
    (positive : 0 < mantissa) :
    RoundsTo ((shortest mantissa exponent).digits * 10 ^ (shortest mantissa exponent).power)
        mantissa exponent ∧
      (shortest mantissa exponent).digits < 10 ^ 18 ∧
        -350 ≤ (shortest mantissa exponent).power := by
  have atLeastOne : (1 : ℚ) ≤ mantissa := by exact_mod_cast positive
  have scale : (0 : ℚ) < 2 ^ exponent := by positivity
  have valuePos : 0 < (rounding mantissa exponent).value := by
    simp only [rounding, Nat.pow_eq]
    positivity
  obtain ⟨leadLower, leadUpper⟩ := Rounding.leadingPower_spec valuePos rounding_denominator_pos
  rw [rounding_value] at leadLower leadUpper
  generalize leads : (rounding mantissa exponent).leadingPower = lead at *
  have enough : (10 : ℚ) ^ (lead - 16 + 16) ≤ mantissa * 2 ^ exponent := by
    rwa [sub_add_cancel]
  obtain ⟨found, lower, upper⟩ := Rounding.search_spec (rounding mantissa exponent)
    (show lead - 16 ≤ lead by omega) (show lead - (lead - 16) < (17 : Nat) by omega)
    (Rounding.pick?_isSome positive rounded.mantissa_lt enough)
  rw [← leads] at found lower upper
  rw [← shortest.eq_1] at found lower upper
  rw [leads] at lower upper
  have rounds := Rounding.roundsTo_of_pick positive found
  refine ⟨rounds, ?_, ?_⟩
  · have below : ((shortest mantissa exponent).digits : ℚ) * 10 ^ (shortest mantissa exponent).power
        < 2 * 10 ^ (lead + 1) :=
      calc ((shortest mantissa exponent).digits : ℚ) * 10 ^ (shortest mantissa exponent).power
          < (mantissa + 1) * 2 ^ exponent := rounds.lt_next
        _ ≤ 2 * (mantissa * 2 ^ exponent) := by nlinarith
        _ ≤ 2 * 10 ^ (lead + 1) := by linarith
    have unit : (10 : ℚ) ^ (lead - 16) ≤ 10 ^ (shortest mantissa exponent).power :=
      zpow_le_zpow_right₀ (by norm_num) lower
    have inUnits : ((shortest mantissa exponent).digits : ℚ) * 10 ^ (lead - 16)
        < 2 * 10 ^ 17 * 10 ^ (lead - 16) :=
      calc ((shortest mantissa exponent).digits : ℚ) * 10 ^ (lead - 16)
          ≤ (shortest mantissa exponent).digits * 10 ^ (shortest mantissa exponent).power := by
            gcongr
        _ < 2 * 10 ^ (lead + 1) := below
        _ = 2 * 10 ^ 17 * 10 ^ (lead - 16) := by
            rw [mul_assoc, ← zpow_natCast, ← zpow_add₀ (by norm_num)]
            congr 2
            push_cast
            ring
    have few := lt_of_mul_lt_mul_right inUnits (by positivity)
    have : (shortest mantissa exponent).digits < 2 * 10 ^ 17 := by exact_mod_cast few
    omega
  · have : (10 : ℚ) ^ (-332 : Int) < 10 ^ (lead + 1) :=
      (rounded.bounds positive).1.trans_lt leadUpper
    rw [zpow_lt_zpow_iff_right₀ (by norm_num)] at this
    omega

/-- A decimal number of a size that is not cut off is read as the double that it rounds to. -/
theorem RoundsTo.ofDecimal_eq
    {digits : Nat}
    {power : Int}
    (rounds : RoundsTo (digits * 10 ^ power) mantissa exponent)
    (rounded : IsRounded mantissa exponent)
    (positive : 0 < mantissa)
    (fewDigits : digits < 10 ^ 18)
    (notTiny : -400 ≤ power)
    (negative : Bool) :
    ofDecimal negative digits power = .finite negative mantissa exponent := by
  have unitPos : (0 : ℚ) < 10 ^ power := by positivity
  have digitsPos : 0 < digits := by
    have := rounds.pos positive
    rw [mul_pos_iff_of_pos_right unitPos] at this
    exact_mod_cast this
  have notHuge : power < 316 := by
    have below := rounds.lt_next.trans_le (rounded.bounds positive).2
    have : (10 : ℚ) ^ power < 10 ^ (316 : Int) :=
      (le_mul_of_one_le_left unitPos.le (by exact_mod_cast digitsPos)).trans_lt below
    rwa [zpow_lt_zpow_iff_right₀ (by norm_num)] at this
  have fewBits : digits.log2 < 60 := by
    rw [Nat.log2_lt digitsPos.ne']
    omega
  have inRange : ¬power + (digits.log2 * 30103 / 100000 : Nat) < -400 ∧
      ¬400 < power + (digits.log2 * 30103 / 100000 : Nat) := by
    omega
  simp only [ofDecimal, digitsPos.ne', decide_false, Bool.false_or, inRange.1, inRange.2,
    ↓reduceIte]
  cases power with
  | ofNat p =>
      apply RoundsTo.ofQuotient_eq _ rounded positive one_pos
      simpa using rounds
  | negSucc p =>
      apply RoundsTo.ofQuotient_eq _ rounded positive (Nat.pow_pos (by decide))
      simpa [zpow_negSucc, div_eq_mul_inv] using rounds

end Shortest

end LineTally.Double
