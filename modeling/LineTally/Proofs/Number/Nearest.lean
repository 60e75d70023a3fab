import LineTally.Proofs.Number.Rounding
import LineTally.Tally.Statistics

namespace LineTally.Double

/-!
# The nearest double

No finite double is closer to a quotient than the one that it is rounded to, and of two
that are equally close it is rounded to the one with an even mantissa.  A quotient is
beyond the finite doubles exactly if it lies halfway or more from the greatest of them to
the next power of two.
-/

/-!
## The nearest whole number once more
-/

section Nearest

variable
  {numerator denominator : Nat}

/-- A quotient that lies halfway between two whole numbers is rounded to the even one. -/
theorem nearest_even
    (positive : 0 < denominator)
    (halfway : |(numerator : ℚ) / denominator - nearest numerator denominator| = 1 / 2) :
    nearest numerator denominator % 2 = 0 := by
  have positive' : (0 : ℚ) < denominator := by exact_mod_cast positive
  have apart :
      2 * numerator = 2 * (nearest numerator denominator * denominator) + denominator ∨
        2 * numerator + denominator = 2 * (nearest numerator denominator * denominator) := by
    rw [abs_eq (by norm_num)] at halfway
    refine halfway.imp (fun above => ?_) (fun below => ?_)
    · rw [sub_eq_iff_eq_add, div_eq_iff positive'.ne'] at above
      qify
      linarith
    · rw [sub_eq_iff_eq_add, div_eq_iff positive'.ne'] at below
      qify
      linarith
  have parts := Nat.div_add_mod numerator denominator
  have restBound := Nat.mod_lt numerator positive
  simp only [nearest] at apart ⊢
  generalize numerator / denominator = quotient at *
  generalize numerator % denominator = rest at *
  rw [Nat.mul_comm denominator] at parts
  split_ifs at apart ⊢ with down up
  · omega
  · rw [Nat.add_mul] at apart
    omega
  · omega

/-- No whole number is closer to a quotient than the nearest, nor as close unless this is even. -/
theorem nearest_closest
    (positive : 0 < denominator)
    (other : Int) :
    |(numerator : ℚ) / denominator - nearest numerator denominator| ≤
        |(numerator : ℚ) / denominator - other| ∧
      (|(numerator : ℚ) / denominator - nearest numerator denominator| =
          |(numerator : ℚ) / denominator - other| →
        (other : ℚ) = nearest numerator denominator ∨
          nearest numerator denominator % 2 = 0) := by
  have near := @abs_sub_nearest_le numerator denominator positive
  by_cases same : other = nearest numerator denominator
  · rw [same, Int.cast_natCast]
    exact ⟨le_rfl, fun _ => .inl rfl⟩
  · have apart : (1 : ℚ) ≤ |(other : ℚ) - nearest numerator denominator| := by
      exact_mod_cast Int.one_le_abs (sub_ne_zero.mpr same)
    have further :=
      abs_sub_le (other : ℚ) ((numerator : ℚ) / denominator) (nearest numerator denominator)
    rw [abs_sub_comm (other : ℚ) ((numerator : ℚ) / denominator)] at further
    refine ⟨by linarith, ?_⟩
    intro equallyClose
    exact .inr (nearest_even positive (by linarith))

end Nearest

/-!
## Rounding to the closest double
-/

/-- The number that a sign, a mantissa and an exponent stand for. -/
def signedValue
    (negative : Bool)
    (mantissa : Nat)
    (exponent : Int) :
    ℚ :=
  (if negative then -1 else 1) * mantissa * 2 ^ exponent

/--
A finite double is the nearest to a number: no other is closer, and if another one is as
close its mantissa is even.
-/
def IsNearest
    (number : ℚ) :
    Double → Prop
  | .finite negative mantissa exponent =>
      IsRounded mantissa exponent ∧
        ∀ otherNegative otherMantissa otherExponent,
          IsRounded otherMantissa otherExponent →
          |number - signedValue negative mantissa exponent| ≤
              |number - signedValue otherNegative otherMantissa otherExponent| ∧
            (|number - signedValue negative mantissa exponent| =
                |number - signedValue otherNegative otherMantissa otherExponent| →
              signedValue otherNegative otherMantissa otherExponent =
                  signedValue negative mantissa exponent ∨
                mantissa % 2 = 0)
  | .infinite _ | .nan => False

/-- A sign changes no size. -/
theorem abs_signedValue
    (negative : Bool)
    (mantissa : Nat)
    (exponent : Int) :
    |signedValue negative mantissa exponent| = mantissa * 2 ^ exponent := by
  have positive : (0 : ℚ) < 2 ^ exponent := zpow_pos two_pos exponent
  rw [signedValue, abs_mul, abs_mul, Nat.abs_cast, abs_of_pos positive]
  cases negative <;> simp

/-- The opposite number has the opposite sign. -/
theorem neg_signedValue
    (negative : Bool)
    (mantissa : Nat)
    (exponent : Int) :
    -signedValue negative mantissa exponent = signedValue (!negative) mantissa exponent := by
  cases negative <;> simp [signedValue]

/-- The opposite of the nearest double is the nearest to the opposite number. -/
theorem IsNearest.neg
    {number : ℚ}
    {negative : Bool}
    {mantissa : Nat}
    {exponent : Int}
    (nearest : IsNearest number (.finite negative mantissa exponent)) :
    IsNearest (-number) (.finite (!negative) mantissa exponent) := by
  refine ⟨nearest.1, ?_⟩
  intro otherNegative otherMantissa otherExponent rounded
  have closest := nearest.2 (!otherNegative) otherMantissa otherExponent rounded
  have mirrored (negative : Bool) (mantissa : Nat) (exponent : Int) :
      |-number - signedValue (!negative) mantissa exponent| =
        |number - signedValue negative mantissa exponent| := by
    rw [← neg_signedValue, ← neg_sub', abs_neg]
  have mirroredOther := mirrored (!otherNegative) otherMantissa otherExponent
  rw [Bool.not_not] at mirroredOther
  rw [mirrored, mirroredOther]
  refine ⟨closest.1, fun equallyClose => ?_⟩
  refine (closest.2 equallyClose).imp_left fun same => ?_
  rw [← neg_signedValue negative, ← same, neg_signedValue, Bool.not_not]

section Closest

variable
  {numerator denominator mantissa : Nat}
  {exponent : Int}
  {negative found : Bool}

/-- How many of its units a quotient is rounded to, before more than 53 bits are carried over. -/
def roundedUnits
    (numerator denominator : Nat) :
    Nat :=
  let units := scaleDown (unitExponent numerator denominator) numerator denominator
  nearest units.1 units.2

/-- The double that a quotient is rounded to is the rounded number of units. -/
theorem ofQuotient_units
    (positiveNumerator : 0 < numerator)
    (isFinite : ofQuotient negative numerator denominator = .finite found mantissa exponent) :
    found = negative ∧
      (mantissa : ℚ) * 2 ^ exponent =
        roundedUnits numerator denominator * 2 ^ unitExponent numerator denominator ∧
      (roundedUnits numerator denominator % 2 = 0 → mantissa % 2 = 0) := by
  simp only [ofQuotient, positiveNumerator.ne', ↓reduceIte, Nat.pow_eq] at isFinite
  simp only [roundedUnits]
  split_ifs at isFinite with carries
  · obtain ⟨rfl, rfl, rfl⟩ := finite.inj isFinite
    refine ⟨rfl, ?_, fun _ => by norm_num [precision]⟩
    rw [carries, zpow_add_one₀ two_ne_zero]
    push_cast [precision]
    ring
  · obtain ⟨rfl, rfl, rfl⟩ := finite.inj isFinite
    exact ⟨rfl, rfl, id⟩

/-- Whole numbers of the units of a quotient are not closer to it than the rounded one. -/
theorem roundedUnits_closest
    (positiveDenominator : 0 < denominator)
    (other : Int) :
    let scaled : ℚ := numerator / denominator / 2 ^ unitExponent numerator denominator
    |scaled - roundedUnits numerator denominator| ≤ |scaled - other| ∧
      (|scaled - roundedUnits numerator denominator| = |scaled - other| →
        (other : ℚ) = roundedUnits numerator denominator ∨
          roundedUnits numerator denominator % 2 = 0) := by
  obtain ⟨scaledPos, isScaled⟩ :=
    scaleDown_spec (unitExponent numerator denominator) numerator positiveDenominator
  rw [← isScaled]
  exact nearest_closest scaledPos other

/-- No double is closer to a quotient than the rounded number of units. -/
theorem roundedUnits_closest_double
    (positiveNumerator : 0 < numerator)
    (positiveDenominator : 0 < denominator)
    (otherNegative : Bool)
    {otherMantissa : Nat}
    {otherExponent : Int}
    (rounded : IsRounded otherMantissa otherExponent) :
    let scaled : ℚ := numerator / denominator / 2 ^ unitExponent numerator denominator
    let other : ℚ :=
      signedValue otherNegative otherMantissa otherExponent
        / 2 ^ unitExponent numerator denominator
    |scaled - roundedUnits numerator denominator| ≤ |scaled - other| ∧
      (|scaled - roundedUnits numerator denominator| = |scaled - other| →
        other = roundedUnits numerator denominator ∨
          roundedUnits numerator denominator % 2 = 0) := by
  intro scaled other
  have closest := @roundedUnits_closest numerator denominator positiveDenominator
  rcases le_or_gt (unitExponent numerator denominator) otherExponent with within | below
  · -- In no smaller unit the other double is a whole number of units.
    obtain ⟨more, isMore⟩ := Int.le.dest within
    have whole :
        other = (((if otherNegative then -1 else 1) * otherMantissa * 2 ^ more : Int) : ℚ) := by
      rw [div_eq_iff (zpow_ne_zero _ two_ne_zero), signedValue, ← isMore,
        zpow_add₀ two_ne_zero, zpow_natCast]
      push_cast
      ring
    rw [whole]
    exact closest _
  · -- In a smaller unit it has fewer than 53 bits, all of which the quotient has.
    have aboveLeast : unitExponent numerator denominator ≠ minExponent := by
      have := rounded.le_exponent
      omega
    have long := (unitExponent_spec positiveNumerator positiveDenominator).2.resolve_left aboveLeast
    have short : |other| < 2 ^ (precision - 1) := by
      have fits : (otherMantissa : ℚ) < 2 ^ precision := by exact_mod_cast rounded.mantissa_lt
      have positive : (0 : ℚ) < 2 ^ unitExponent numerator denominator := zpow_pos two_pos _
      rw [abs_div, abs_signedValue, abs_of_pos positive, div_lt_iff₀ positive]
      calc (otherMantissa : ℚ) * 2 ^ otherExponent
          < 2 ^ precision * 2 ^ otherExponent := by gcongr
        _ = 2 ^ (precision - 1) * 2 ^ (otherExponent + 1) := by
            rw [zpow_add_one₀ two_ne_zero]
            simp only [precision]
            ring
        _ ≤ 2 ^ (precision - 1) * 2 ^ unitExponent numerator denominator := by
            gcongr
            · exact one_le_two
            · omega
    have atPower := (closest (2 ^ (precision - 1))).1
    push_cast at atPower
    rw [abs_of_nonneg (sub_nonneg.mpr long.2)] at atPower
    have closer : |scaled - roundedUnits numerator denominator| < |scaled - other| := by
      linarith [le_abs_self (scaled - other), (abs_lt.mp short).2]
    exact ⟨closer.le, fun equallyClose => (closer.ne equallyClose).elim⟩

/-- A quotient is rounded to the nearest double if that is finite. -/
theorem isNearest_ofQuotient
    (positiveDenominator : 0 < denominator)
    (isFinite : ofQuotient negative numerator denominator = .finite found mantissa exponent) :
    found = negative ∧
      IsNearest ((numerator : ℚ) / denominator) (.finite false mantissa exponent) := by
  have rounded := isRounded_of_ofQuotient positiveDenominator isFinite
  rcases Nat.eq_zero_or_pos numerator with zero | positiveNumerator
  · simp only [ofQuotient, zero, ↓reduceIte, Double.zero, finite.injEq] at isFinite
    obtain ⟨rfl, rfl, rfl⟩ := isFinite
    refine ⟨rfl, rounded, ?_⟩
    intro otherNegative otherMantissa otherExponent _
    simp [zero, signedValue, eq_comm]
  · obtain ⟨same, isValue, even⟩ := ofQuotient_units positiveNumerator isFinite
    refine ⟨same, rounded, ?_⟩
    intro otherNegative otherMantissa otherExponent otherRounded
    have closest :=
      roundedUnits_closest_double positiveNumerator positiveDenominator otherNegative otherRounded
    generalize unitExponent numerator denominator = unit at *
    have positive : (0 : ℚ) < 2 ^ unit := zpow_pos two_pos unit
    have inUnits (value : ℚ) :
        |(numerator : ℚ) / denominator - value| =
          |(numerator : ℚ) / denominator / 2 ^ unit - value / 2 ^ unit| * 2 ^ unit := by
      rw [← sub_div, abs_div, abs_of_pos positive, div_mul_cancel₀ _ positive.ne']
    have value :
        signedValue false mantissa exponent / 2 ^ unit = roundedUnits numerator denominator := by
      rw [signedValue, if_neg (by decide), one_mul, isValue,
        mul_div_cancel_right₀ _ positive.ne']
    rw [inUnits, inUnits (signedValue otherNegative otherMantissa otherExponent), value]
    refine ⟨mul_le_mul_of_nonneg_right closest.1 positive.le, ?_⟩
    intro equallyClose
    have inSameUnits := mul_right_cancel₀ positive.ne' equallyClose
    refine (closest.2 inSameUnits).imp (fun sameUnits => ?_) even
    rw [← value] at sameUnits
    exact (div_left_inj' positive.ne').mp sameUnits

/-!
## Quotients beyond the doubles
-/

/-- The number halfway from the greatest double to the next power of two. -/
def overflowBound : ℚ :=
  (2 ^ precision - 1 / 2) * 2 ^ maxExponent

/-- The units of the greatest doubles are carried over exactly from half a unit before a power. -/
theorem roundedUnits_carries_iff
    (positiveNumerator : 0 < numerator)
    (positiveDenominator : 0 < denominator) :
    roundedUnits numerator denominator = 2 ^ precision ↔
      2 ^ precision - 1 / 2 ≤
        (numerator : ℚ) / denominator / 2 ^ unitExponent numerator denominator := by
  have short := (unitExponent_spec positiveNumerator positiveDenominator).1
  obtain ⟨scaledPos, isScaled⟩ :=
    scaleDown_spec (unitExponent numerator denominator) numerator positiveDenominator
  rw [← isScaled] at short ⊢
  rw [roundedUnits]
  generalize scaleDown (unitExponent numerator denominator) numerator denominator = units at *
  have near := abs_le.mp (@abs_sub_nearest_le units.1 units.2 scaledPos)
  constructor
  · intro carries
    rw [carries] at near
    push_cast at near
    linarith [near.1]
  · intro atHalf
    have atMost : nearest units.1 units.2 ≤ 2 ^ precision := by
      apply nearest_le scaledPos
      rw [div_lt_iff₀ (by exact_mod_cast scaledPos)] at short
      exact_mod_cast short.le
    by_contra notCarried
    have below : (nearest units.1 units.2 : ℚ) + 1 ≤ 2 ^ precision := by
      exact_mod_cast lt_of_le_of_ne atMost notCarried
    -- Half a unit from the last odd number of units is a tie, which goes to the power.
    have lastOdd : (nearest units.1 units.2 : ℚ) + 1 = 2 ^ precision := by
      linarith [near.2]
    have halfway : |(units.1 : ℚ) / units.2 - nearest units.1 units.2| = 1 / 2 := by
      rw [abs_eq (by norm_num)]
      exact .inl (by linarith [near.2])
    have even := nearest_even scaledPos halfway
    have isOdd : nearest units.1 units.2 + 1 = 2 ^ precision := by
      exact_mod_cast lastOdd
    simp only [precision] at isOdd
    omega

/-- A quotient comes out finite if the unit that it is rounded to is one of the doubles. -/
theorem exists_finite_iff_unit
    (positiveNumerator : 0 < numerator) :
    (∃ mantissa exponent,
        ofQuotient negative numerator denominator = .finite negative mantissa exponent) ↔
      unitExponent numerator denominator
        + (if roundedUnits numerator denominator = 2 ^ precision then 1 else 0) ≤
          maxExponent := by
  simp only [ofQuotient, positiveNumerator.ne', ↓reduceIte, Nat.pow_eq]
  by_cases carried : roundedUnits numerator denominator = 2 ^ precision
  · rw [if_pos carried]
    rw [roundedUnits] at carried
    simp only [carried, ↓reduceIte]
    split_ifs with tooLarge
    · simpa using tooLarge
    · simpa using tooLarge
  · rw [if_neg carried]
    rw [roundedUnits] at carried
    simp only [carried, ↓reduceIte]
    split_ifs with tooLarge
    · simpa using tooLarge
    · simpa using tooLarge

/-- A positive quotient comes out finite exactly if it is below halfway to the next power. -/
theorem exists_finite_iff_of_pos
    (positiveNumerator : 0 < numerator)
    (positiveDenominator : 0 < denominator) :
    (∃ mantissa exponent,
        ofQuotient negative numerator denominator = .finite negative mantissa exponent) ↔
      (numerator : ℚ) / denominator < overflowBound := by
  obtain ⟨short, long⟩ := unitExponent_spec positiveNumerator positiveDenominator
  have carries := roundedUnits_carries_iff positiveNumerator positiveDenominator
  rw [exists_finite_iff_unit positiveNumerator, overflowBound]
  generalize unitExponent numerator denominator = unit at *
  rw [div_lt_iff₀ (by positivity)] at short
  rw [le_div_iff₀ (by positivity)] at carries
  rcases lt_trichotomy unit maxExponent with below | atGreatest | above
  · -- Even the units that are carried over are units of a double.
    refine iff_of_true (by split_ifs <;> omega) ?_
    calc (numerator : ℚ) / denominator
        < 2 ^ precision * 2 ^ unit := short
      _ ≤ 2 ^ precision * 2 ^ (maxExponent - 1) := by
          gcongr
          · exact one_le_two
          · omega
      _ = 2 ^ (precision - 1) * 2 ^ maxExponent := by
          rw [zpow_sub_one₀ two_ne_zero]
          simp only [precision]
          ring
      _ < (2 ^ precision - 1 / 2) * 2 ^ maxExponent := by
          gcongr
          norm_num [precision]
  · rw [atGreatest] at carries ⊢
    rw [← not_le, ← carries]
    split_ifs with carried <;> simp [carried]
  · have isLong := (long.resolve_left (by simp only [minExponent, maxExponent] at *; omega)).2
    rw [le_div_iff₀ (by positivity)] at isLong
    refine iff_of_false (by split_ifs <;> omega) (not_lt.mpr ?_)
    calc (2 ^ precision - 1 / 2) * 2 ^ maxExponent
        ≤ (2 : ℚ) ^ precision * 2 ^ maxExponent := by
          gcongr
          norm_num
      _ = 2 ^ (precision - 1) * 2 ^ (maxExponent + 1) := by
          rw [zpow_add_one₀ two_ne_zero]
          simp only [precision]
          ring
      _ ≤ 2 ^ (precision - 1) * 2 ^ unit := by
          gcongr
          · exact one_le_two
          · omega
      _ ≤ numerator / denominator := isLong

/-- A quotient comes out finite exactly if it is below halfway to the next power of two. -/
theorem exists_finite_iff
    (positiveDenominator : 0 < denominator) :
    (∃ mantissa exponent,
        ofQuotient negative numerator denominator = .finite negative mantissa exponent) ↔
      (numerator : ℚ) / denominator < overflowBound := by
  rcases Nat.eq_zero_or_pos numerator with zero | positiveNumerator
  · refine iff_of_true ⟨0, minExponent, ?_⟩ ?_
    · rw [ofQuotient, if_pos zero, Double.zero]
    · rw [zero, Nat.cast_zero, zero_div, overflowBound]
      exact mul_pos (by norm_num [precision]) (zpow_pos two_pos _)
  · exact exists_finite_iff_of_pos positiveNumerator positiveDenominator

end Closest

section Divide

variable
  {numerator denominator : Int}

/-- Whether a quotient of whole numbers has a minus sign. -/
def isOpposed
    (numerator denominator : Int) :
    Bool :=
  decide (numerator < 0) != decide (denominator < 0)

/-- The size of a quotient of whole numbers is the quotient of their sizes. -/
theorem abs_div_eq
    (numerator denominator : Int) :
    |(numerator : ℚ) / denominator| = (numerator.natAbs : ℚ) / denominator.natAbs := by
  rw [abs_div, Nat.cast_natAbs, Nat.cast_natAbs, Int.cast_abs, Int.cast_abs]

/-- A quotient of whole numbers is that of their sizes, with its sign. -/
theorem div_eq_signed
    (numerator denominator : Int) :
    (numerator : ℚ) / denominator =
      if isOpposed numerator denominator then
        -((numerator.natAbs : ℚ) / denominator.natAbs)
      else
        (numerator.natAbs : ℚ) / denominator.natAbs := by
  rw [Nat.cast_natAbs, Nat.cast_natAbs, Int.cast_abs, Int.cast_abs, isOpposed]
  have size (n : Int) : |(n : ℚ)| = if n < 0 then -(n : ℚ) else n := by
    split_ifs with negative
    · exact abs_of_neg (by exact_mod_cast negative)
    · exact abs_of_nonneg (by exact_mod_cast not_lt.mp negative)
  rw [size, size]
  by_cases numeratorNegative : numerator < 0 <;> by_cases denominatorNegative : denominator < 0 <;>
    simp [numeratorNegative, denominatorNegative, neg_div, div_neg]

/-- A quotient of whole numbers is a double exactly if that of their sizes is rounded to it. -/
theorem divide_eq_ok_iff
    {quotient : Double}
    (nonzero : denominator ≠ 0) :
    divide numerator denominator = .ok quotient ↔
      ∃ mantissa exponent,
        ofQuotient (isOpposed numerator denominator) numerator.natAbs denominator.natAbs =
            .finite (isOpposed numerator denominator) mantissa exponent ∧
          quotient = .finite (isOpposed numerator denominator) mantissa exponent := by
  have positive : 0 < denominator.natAbs := Int.natAbs_pos.mpr nonzero
  rw [divide, divide?, ← isOpposed]
  cases rounded :
      ofQuotient (isOpposed numerator denominator) numerator.natAbs denominator.natAbs with
  | finite found mantissa exponent =>
      rw [(isNearest_ofQuotient positive rounded).1]
      simp [eq_comm]
  | infinite found =>
      simp
  | nan =>
      simp

/-- The quotient of two whole numbers is a double exactly if it is in the range of doubles. -/
theorem exists_divide_iff
    (nonzero : denominator ≠ 0) :
    (∃ quotient, divide numerator denominator = .ok quotient) ↔
      |(numerator : ℚ) / denominator| < overflowBound := by
  have positive : 0 < denominator.natAbs := Int.natAbs_pos.mpr nonzero
  rw [abs_div_eq, ← @exists_finite_iff _ _ (isOpposed numerator denominator) positive]
  simp only [divide_eq_ok_iff nonzero]
  constructor
  · rintro ⟨_, mantissa, exponent, rounded, _⟩
    exact ⟨mantissa, exponent, rounded⟩
  · rintro ⟨mantissa, exponent, rounded⟩
    exact ⟨_, mantissa, exponent, rounded, rfl⟩

/-- A quotient of two whole numbers that is a double is the nearest one. -/
theorem isNearest_of_divide
    {quotient : Double}
    (nonzero : denominator ≠ 0)
    (divided : divide numerator denominator = .ok quotient) :
    IsNearest ((numerator : ℚ) / denominator) quotient := by
  have positive : 0 < denominator.natAbs := Int.natAbs_pos.mpr nonzero
  obtain ⟨mantissa, exponent, rounded, rfl⟩ := (divide_eq_ok_iff nonzero).mp divided
  have nearest := (isNearest_ofQuotient positive rounded).2
  rw [div_eq_signed]
  cases isOpposed numerator denominator with
  | false =>
      exact nearest
  | true =>
      exact nearest.neg

end Divide

end LineTally.Double
