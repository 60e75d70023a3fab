import LineTally.Proofs.Number.Fraction
import Mathlib.Algebra.Order.Field.Power
import Mathlib.Data.Nat.Log
import Mathlib.Data.Rat.Cast.Order
import Mathlib.Tactic.FieldSimp
import Mathlib.Tactic.Linarith
import Mathlib.Tactic.NormNum
import Mathlib.Tactic.Positivity
import Mathlib.Tactic.Qify
import Mathlib.Tactic.Ring

namespace LineTally.Double

/-!
# Rounding to doubles

A double is the rounding of every quotient that is closer to it than to its neighbours,
and of those halfway if its mantissa is even.  Below the least mantissa of 53 bits the
neighbour is only half as far away, since its unit is half as large.
-/

/-- The exact value of a quotient that has been divided by a power of two. -/
theorem scaleDown_spec
    (exponent : Int)
    (numerator : Nat)
    {denominator : Nat}
    (positive : 0 < denominator) :
    0 < (scaleDown exponent numerator denominator).2 ∧
      ((scaleDown exponent numerator denominator).1 : ℚ)
          / (scaleDown exponent numerator denominator).2 =
        numerator / denominator / 2 ^ exponent := by
  cases exponent with
  | ofNat e =>
      simp only [scaleDown, Nat.pow_eq, Int.ofNat_eq_natCast, zpow_natCast]
      exact ⟨by positivity, by push_cast; rw [div_div]⟩
  | negSucc e =>
      simp only [scaleDown, Nat.pow_eq, zpow_negSucc, div_inv_eq_mul]
      exact ⟨positive, by push_cast; ring⟩

/-!
## The nearest whole number
-/

section Nearest

variable
  {numerator denominator whole : Nat}

/-- A whole number at most one half away, and even if it is exactly that, is the nearest one. -/
theorem nearest_eq
    (positive : 0 < denominator)
    (lower : 2 * (whole * denominator) ≤ 2 * numerator + denominator)
    (upper : 2 * numerator ≤ 2 * (whole * denominator) + denominator)
    (inside :
      whole % 2 = 1 →
        2 * (whole * denominator) < 2 * numerator + denominator ∧
          2 * numerator < 2 * (whole * denominator) + denominator) :
    nearest numerator denominator = whole := by
  have parts := Nat.div_add_mod numerator denominator
  have restBound := Nat.mod_lt numerator positive
  simp only [nearest]
  generalize numerator / denominator = quotient at *
  generalize numerator % denominator = rest at *
  have atMostOneMore : whole ≤ quotient + 1 := by
    by_contra further
    have : (quotient + 2) * denominator ≤ whole * denominator :=
      Nat.mul_le_mul_right _ (by omega)
    rw [Nat.add_mul, Nat.mul_comm quotient] at this
    omega
  have notLess : quotient ≤ whole := by
    by_contra less
    have : (whole + 1) * denominator ≤ quotient * denominator :=
      Nat.mul_le_mul_right _ (by omega)
    rw [Nat.add_mul, Nat.mul_comm quotient] at this
    omega
  obtain atQuotient | atNext : whole = quotient ∨ whole = quotient + 1 := by omega
  · subst atQuotient
    rw [Nat.mul_comm whole] at lower upper inside
    split_ifs <;> omega
  · subst atNext
    rw [Nat.add_mul, Nat.mul_comm quotient] at lower upper inside
    split_ifs <;> omega

/-- A whole number that the quotient is not below is not below what it is rounded to. -/
theorem le_nearest
    (positive : 0 < denominator)
    (bounded : whole * denominator ≤ numerator) :
    whole ≤ nearest numerator denominator := by
  have quotient : whole ≤ numerator / denominator :=
    (Nat.le_div_iff_mul_le positive).mpr bounded
  simp only [nearest]
  split_ifs <;> omega

/-- The nearest whole number is at most one half away. -/
theorem nearest_near
    (positive : 0 < denominator) :
    2 * (nearest numerator denominator * denominator) ≤ 2 * numerator + denominator ∧
      2 * numerator ≤ 2 * (nearest numerator denominator * denominator) + denominator := by
  have parts := Nat.div_add_mod numerator denominator
  have restBound := Nat.mod_lt numerator positive
  simp only [nearest]
  generalize numerator / denominator = quotient at *
  generalize numerator % denominator = rest at *
  rw [Nat.mul_comm denominator] at parts
  split_ifs with down up
  · omega
  · rw [Nat.add_mul]
    omega
  · rw [Nat.add_mul]
    rcases Nat.mod_two_eq_zero_or_one quotient with even | odd
    · rw [even]
      omega
    · rw [odd]
      omega

/-- The nearest whole number, in terms of the exact quotient. -/
theorem nearest_eq_of_div
    (positive : 0 < denominator)
    (lower : (whole : ℚ) - 1 / 2 ≤ numerator / denominator)
    (upper : (numerator : ℚ) / denominator ≤ whole + 1 / 2)
    (inside :
      whole % 2 = 1 →
        (whole : ℚ) - 1 / 2 < numerator / denominator ∧
          (numerator : ℚ) / denominator < whole + 1 / 2) :
    nearest numerator denominator = whole := by
  have positive' : (0 : ℚ) < denominator := by exact_mod_cast positive
  rw [le_div_iff₀ positive'] at lower
  rw [div_le_iff₀ positive'] at upper
  simp only [lt_div_iff₀ positive', div_lt_iff₀ positive'] at inside
  apply nearest_eq positive
  · qify
    linarith
  · qify
    linarith
  · intro odd
    have := inside odd
    constructor <;> qify <;> linarith

/-- How far the nearest whole number is away from the exact quotient. -/
theorem abs_sub_nearest_le
    (positive : 0 < denominator) :
    |(numerator : ℚ) / denominator - nearest numerator denominator| ≤ 1 / 2 := by
  have positive' : (0 : ℚ) < denominator := by exact_mod_cast positive
  obtain ⟨lower, upper⟩ := @nearest_near numerator denominator positive
  qify at lower upper
  rw [abs_le]
  constructor
  · rw [neg_le_sub_iff_le_add, ← sub_le_iff_le_add, le_div_iff₀ positive']
    linarith
  · rw [sub_le_iff_le_add, div_le_iff₀ positive']
    linarith

end Nearest

/-!
## The unit of a quotient
-/

section Unit

variable
  {numerator denominator : Nat}

/-- A positive number lies between the powers of two that its binary logarithm names. -/
theorem log2_bounds
    {n : Nat}
    (positive : 0 < n) :
    (2 : ℚ) ^ (n.log2 : Int) ≤ n ∧ (n : ℚ) < 2 ^ ((n.log2 : Int) + 1) := by
  have lower := Nat.log2_self_le positive.ne'
  have upper := @Nat.lt_log2_self n
  exact ⟨by exact_mod_cast lower, by exact_mod_cast upper⟩

/-- What the guess at the unit of a quotient leaves to decide. -/
theorem quotient_bounds
    (positiveNumerator : 0 < numerator)
    (positiveDenominator : 0 < denominator) :
    (2 : ℚ) ^ ((numerator.log2 : Int) - denominator.log2 - 1) < numerator / denominator ∧
      (numerator : ℚ) / denominator < 2 ^ ((numerator.log2 : Int) - denominator.log2 + 1) := by
  obtain ⟨lowerN, upperN⟩ := log2_bounds positiveNumerator
  obtain ⟨lowerD, upperD⟩ := log2_bounds positiveDenominator
  have positive : (0 : ℚ) < denominator := by exact_mod_cast positiveDenominator
  constructor
  · rw [lt_div_iff₀ positive]
    calc (2 : ℚ) ^ ((numerator.log2 : Int) - denominator.log2 - 1) * denominator
        < 2 ^ ((numerator.log2 : Int) - denominator.log2 - 1) *
            2 ^ ((denominator.log2 : Int) + 1) :=
          mul_lt_mul_of_pos_left upperD (by positivity)
      _ = 2 ^ (numerator.log2 : Int) := by
          rw [← zpow_add₀ two_ne_zero]
          ring_nf
      _ ≤ numerator := lowerN
  · rw [div_lt_iff₀ positive]
    calc (numerator : ℚ)
        < 2 ^ ((numerator.log2 : Int) + 1) := upperN
      _ = 2 ^ ((numerator.log2 : Int) - denominator.log2 + 1) * 2 ^ (denominator.log2 : Int) := by
          rw [← zpow_add₀ two_ne_zero]
          ring_nf
      _ ≤ 2 ^ ((numerator.log2 : Int) - denominator.log2 + 1) * denominator :=
          mul_le_mul_of_nonneg_left lowerD (by positivity)

/-- A quotient with 53 bits in some unit has 53 bits at most in no less a unit than the least. -/
theorem max_minExponent_spec
    {quotient : ℚ}
    {exact : Int}
    (lower : (2 : ℚ) ^ (precision - 1) ≤ quotient / 2 ^ exact)
    (upper : quotient / 2 ^ exact < 2 ^ precision) :
    quotient / 2 ^ max exact minExponent < 2 ^ precision ∧
      (max exact minExponent = minExponent ∨
        minExponent < max exact minExponent ∧
          (2 : ℚ) ^ (precision - 1) ≤ quotient / 2 ^ max exact minExponent) := by
  rcases le_or_gt exact minExponent with small | large
  · rw [max_eq_right small]
    have nonneg : 0 ≤ quotient := by
      have : 0 < quotient / 2 ^ exact := lt_of_lt_of_le (by positivity) lower
      rw [div_pos_iff_of_pos_right (by positivity)] at this
      exact this.le
    refine ⟨lt_of_le_of_lt ?_ upper, .inl rfl⟩
    exact div_le_div_of_nonneg_left nonneg (by positivity)
      (zpow_le_zpow_right₀ one_le_two small)
  · rw [max_eq_left large.le]
    exact ⟨upper, .inr ⟨large, lower⟩⟩

/-- A quotient has 53 bits before the point at most, and exactly 53 unless its unit is the least. -/
theorem unitExponent_spec
    (positiveNumerator : 0 < numerator)
    (positiveDenominator : 0 < denominator) :
    (numerator : ℚ) / denominator / 2 ^ unitExponent numerator denominator < 2 ^ precision ∧
      (unitExponent numerator denominator = minExponent ∨
        minExponent < unitExponent numerator denominator ∧
          (2 : ℚ) ^ (precision - 1) ≤
            numerator / denominator / 2 ^ unitExponent numerator denominator) := by
  obtain ⟨lower, upper⟩ := quotient_bounds positiveNumerator positiveDenominator
  obtain ⟨positive, scaled⟩ :=
    scaleDown_spec ((numerator.log2 : Int) - denominator.log2 - precision) numerator
      positiveDenominator
  have positive' : (0 : ℚ) < (scaleDown ((numerator.log2 : Int) - denominator.log2 - precision)
      numerator denominator).2 := by exact_mod_cast positive
  simp only [unitExponent]
  apply max_minExponent_spec
  · split_ifs with fits
    · rw [le_div_iff₀ (by positivity), ← zpow_natCast, ← zpow_add₀ two_ne_zero]
      refine Eq.trans_le ?_ lower.le
      congr 1
      simp only [precision]
      ring
    · rw [Nat.pow_eq, Nat.div_lt_iff_lt_mul positive, not_lt] at fits
      qify at fits
      rw [← le_div_iff₀ positive', scaled] at fits
      rw [zpow_add_one₀ two_ne_zero, ← div_div, le_div_iff₀ two_pos]
      simpa [precision, ← pow_succ] using fits
  · split_ifs with fits
    · rw [Nat.pow_eq, Nat.div_lt_iff_lt_mul positive] at fits
      qify at fits
      rwa [← div_lt_iff₀ positive', scaled] at fits
    · rw [div_lt_iff₀ (by positivity), ← zpow_natCast, ← zpow_add₀ two_ne_zero]
      refine upper.trans_eq ?_
      congr 1
      ring

end Unit

/-!
## The numbers that round to a double
-/

/-- The mantissa and the exponent of a finite double, of which the mantissa is as long as it can. -/
structure IsRounded
    (mantissa : Nat)
    (exponent : Int) :
    Prop where
  mantissa_lt : mantissa < 2 ^ precision
  le_exponent : minExponent ≤ exponent
  exponent_le : exponent ≤ maxExponent
  long : exponent = minExponent ∨ 2 ^ (precision - 1) ≤ mantissa

/-- How many units below a double the numbers that round to it begin. -/
def gapBelow
    (mantissa : Nat)
    (exponent : Int) :
    ℚ :=
  if mantissa = 2 ^ (precision - 1) ∧ minExponent < exponent then 1 / 4 else 1 / 2

/-- A number is closer to a double than to its neighbours, or halfway if the mantissa is even. -/
structure RoundsTo
    (number : ℚ)
    (mantissa : Nat)
    (exponent : Int) :
    Prop where
  lower : mantissa - gapBelow mantissa exponent ≤ number / 2 ^ exponent
  upper : number / 2 ^ exponent ≤ mantissa + 1 / 2
  inside :
    mantissa % 2 = 1 →
      mantissa - gapBelow mantissa exponent < number / 2 ^ exponent ∧
        number / 2 ^ exponent < mantissa + 1 / 2

/-- The gap below a double is one half or one quarter of a unit. -/
theorem gapBelow_bounds
    (mantissa : Nat)
    (exponent : Int) :
    1 / 4 ≤ gapBelow mantissa exponent ∧ gapBelow mantissa exponent ≤ 1 / 2 := by
  simp only [gapBelow]
  split_ifs <;> norm_num

section RoundsTo

variable
  {numerator denominator mantissa : Nat}
  {exponent : Int}

/-- What rounds to a double that is not zero is itself positive. -/
theorem RoundsTo.pos
    {number : ℚ}
    (rounds : RoundsTo number mantissa exponent)
    (positive : 0 < mantissa) :
    0 < number := by
  have atLeastOne : (1 : ℚ) ≤ mantissa := by exact_mod_cast positive
  have scaled : 0 < number / 2 ^ exponent := by
    linarith [rounds.lower, (gapBelow_bounds mantissa exponent).2]
  rwa [div_pos_iff_of_pos_right (by positivity)] at scaled

/-- In a larger unit there are fewer units. -/
theorem div_zpow_le
    {number : ℚ}
    (nonneg : 0 ≤ number)
    {small large : Int}
    (more : Nat)
    (larger : small + more ≤ large) :
    number / 2 ^ large ≤ number / 2 ^ small / 2 ^ more := by
  rw [div_div, ← zpow_natCast (2 : ℚ) more, ← zpow_add₀ two_ne_zero]
  exact div_le_div_of_nonneg_left nonneg (by positivity)
    (zpow_le_zpow_right₀ one_le_two larger)

/-- The unit of what rounds to a double is the double's own, or half as large at a power of two. -/
theorem RoundsTo.unitExponent_eq
    (rounds : RoundsTo (numerator / denominator) mantissa exponent)
    (rounded : IsRounded mantissa exponent)
    (positiveNumerator : 0 < numerator)
    (positiveDenominator : 0 < denominator) :
    unitExponent numerator denominator = exponent ∨
      unitExponent numerator denominator + 1 = exponent ∧ mantissa = 2 ^ (precision - 1) := by
  obtain ⟨short, long⟩ := unitExponent_spec positiveNumerator positiveDenominator
  generalize unitExponent numerator denominator = unit at *
  have nonneg : (0 : ℚ) ≤ numerator / denominator := by positivity
  generalize (numerator : ℚ) / denominator = quotient at *
  have mantissaBound : (mantissa : ℚ) + 1 ≤ 2 ^ precision := by exact_mod_cast rounded.mantissa_lt
  rcases lt_trichotomy unit exponent with below | same | above
  · have aboveLeast : minExponent < exponent := by omega
    have mantissaLong : 2 ^ (precision - 1) ≤ mantissa :=
      rounded.long.resolve_left aboveLeast.ne'
    have halved := div_zpow_le nonneg 1 below
    have atPower : mantissa = 2 ^ (precision - 1) := by
      by_contra other
      have further : (2 : ℚ) ^ (precision - 1) + 1 ≤ mantissa := by
        exact_mod_cast lt_of_le_of_ne mantissaLong (Ne.symm other)
      have lower := rounds.lower
      simp only [gapBelow, other, false_and, ↓reduceIte] at lower
      norm_num [precision] at short
      norm_num only [precision] at further
      linarith
    refine .inr ⟨?_, atPower⟩
    -- Two units further down even the lower end of the interval would have 54 bits.
    by_contra notNext
    have quartered := div_zpow_le nonneg 2 (show unit + (2 : Nat) ≤ exponent by omega)
    have lower := rounds.lower
    rw [atPower] at lower
    simp only [gapBelow, aboveLeast, and_self, ↓reduceIte] at lower
    norm_num [precision] at lower short
    linarith
  · exact .inl same
  · -- A unit that is too large would leave fewer than 53 bits.
    obtain least | ⟨-, long⟩ := long
    · have := rounded.le_exponent
      omega
    have halved := div_zpow_le nonneg 1 above
    have upper := rounds.upper
    norm_num [precision] at mantissaBound long
    linarith

/-- A quotient is rounded to the double whose interval it lies in. -/
theorem RoundsTo.ofQuotient_eq
    (rounds : RoundsTo (numerator / denominator) mantissa exponent)
    (rounded : IsRounded mantissa exponent)
    (positive : 0 < mantissa)
    (positiveDenominator : 0 < denominator)
    (negative : Bool) :
    ofQuotient negative numerator denominator = .finite negative mantissa exponent := by
  have positiveNumerator : 0 < numerator := by
    have := rounds.pos positive
    rw [div_pos_iff_of_pos_right (by exact_mod_cast positiveDenominator)] at this
    exact_mod_cast this
  have notTooLarge := rounded.exponent_le
  obtain ⟨scaledPos, scaled⟩ :=
    scaleDown_spec (unitExponent numerator denominator) numerator positiveDenominator
  have gap := gapBelow_bounds mantissa exponent
  have lower := rounds.lower
  have upper := rounds.upper
  have inside := rounds.inside
  simp only [ofQuotient, positiveNumerator.ne', ↓reduceIte]
  obtain same | ⟨half, atPower⟩ :=
    rounds.unitExponent_eq rounded positiveNumerator positiveDenominator
  · rw [same] at scaled scaledPos ⊢
    rw [← scaled] at lower upper inside
    have mantissaEq := nearest_eq_of_div scaledPos (by linarith) upper
      (fun odd => ⟨by linarith [(inside odd).1], (inside odd).2⟩)
    have noCarry : mantissa ≠ 2 ^ precision := rounded.mantissa_lt.ne
    simp only [mantissaEq, Nat.pow_eq, noCarry, ↓reduceIte, notTooLarge.not_gt]
  · -- Twice the number of units rounds to 54 bits, and the carry restores the unit.
    subst half
    have doubled :
        (numerator : ℚ) / denominator / 2 ^ (unitExponent numerator denominator + 1) =
          numerator / denominator / 2 ^ unitExponent numerator denominator / 2 := by
      rw [div_div _ _ 2, ← zpow_add_one₀ two_ne_zero]
    have aboveLeast : minExponent < unitExponent numerator denominator + 1 := by
      have := unitExponent_spec positiveNumerator positiveDenominator
      omega
    have short := (unitExponent_spec positiveNumerator positiveDenominator).1
    simp only [gapBelow, atPower, aboveLeast, and_self, ↓reduceIte] at lower
    rw [doubled, ← scaled] at lower
    rw [← scaled] at short
    have mantissaEq :
        nearest (scaleDown (unitExponent numerator denominator) numerator denominator).1
          (scaleDown (unitExponent numerator denominator) numerator denominator).2 =
            2 ^ precision := by
      generalize scaleDown (unitExponent numerator denominator) numerator denominator = units at *
      push_cast at lower
      apply nearest_eq_of_div scaledPos
      · push_cast
        norm_num [precision] at lower ⊢
        linarith
      · push_cast
        linarith
      · simp [precision]
    simp only [mantissaEq, Nat.pow_eq, ↓reduceIte, notTooLarge.not_gt, atPower]

/-- Zero has the least unit. -/
theorem isRounded_zero : IsRounded 0 minExponent :=
  ⟨by simp [precision], le_refl _, by decide, .inl rfl⟩

/-- The double nearest to a quotient has a mantissa as long as it can, if it is finite. -/
theorem isRounded_of_ofQuotient
    {negative negative' : Bool}
    (positiveDenominator : 0 < denominator)
    (isFinite : ofQuotient negative numerator denominator = .finite negative' mantissa exponent) :
    IsRounded mantissa exponent := by
  rcases Nat.eq_zero_or_pos numerator with zero | positiveNumerator
  · simp only [ofQuotient, zero, ↓reduceIte, Double.zero, finite.injEq] at isFinite
    obtain ⟨-, rfl, rfl⟩ := isFinite
    exact isRounded_zero
  obtain ⟨short, long⟩ := unitExponent_spec positiveNumerator positiveDenominator
  obtain ⟨scaledPos, scaled⟩ :=
    scaleDown_spec (unitExponent numerator denominator) numerator positiveDenominator
  simp only [ofQuotient, positiveNumerator.ne', ↓reduceIte] at isFinite
  generalize unitExponent numerator denominator = unit at *
  rw [← scaled] at short long
  generalize scaleDown unit numerator denominator = units at *
  have scaledPos' : (0 : ℚ) < units.2 := by exact_mod_cast scaledPos
  rw [div_lt_iff₀ scaledPos'] at short
  rw [le_div_iff₀ scaledPos'] at long
  have atMost : nearest units.1 units.2 ≤ 2 ^ precision :=
    nearest_le scaledPos (by exact_mod_cast short.le)
  have atLeast : unit = minExponent ∨ minExponent < unit ∧
      2 ^ (precision - 1) ≤ nearest units.1 units.2 :=
    long.imp id (fun above => ⟨above.1, le_nearest scaledPos (by exact_mod_cast above.2)⟩)
  rw [Nat.pow_eq] at isFinite
  split_ifs at isFinite with carries tooLarge tooLarge
  · obtain ⟨-, rfl, rfl⟩ := finite.inj isFinite
    exact ⟨by norm_num [precision], by omega, by omega, .inr le_rfl⟩
  · obtain ⟨-, rfl, rfl⟩ := finite.inj isFinite
    exact ⟨by omega, by omega, by omega, by omega⟩

end RoundsTo

end LineTally.Double
