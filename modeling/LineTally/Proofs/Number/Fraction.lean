import LineTally.Number.Double
import Mathlib.Algebra.Order.Field.Power
import Mathlib.Data.Nat.Log
import Mathlib.Data.Rat.Cast.Order
import Mathlib.Tactic.Linarith

namespace LineTally.Double

/-!
# Doubles of fractions up to one

A quotient of at most one has a unit below one, so one is a whole number of units.
To round a number of units to the nearest one does not lead beyond any whole number
of units that it did not exceed, hence the double lies between zero and one, too.
-/

/-- The number that a finite double stands for. -/
def value? :
    Double → Option ℚ
  | .finite negative mantissa exponent =>
      some ((if negative then -1 else 1) * mantissa * 2 ^ exponent)
  | .infinite _ | .nan => none

/-- Rounding does not lead beyond a whole number that the quotient does not exceed. -/
theorem nearest_le
    {numerator denominator bound : Nat}
    (positive : 0 < denominator)
    (bounded : numerator ≤ bound * denominator) :
    nearest numerator denominator ≤ bound := by
  have quotient : numerator / denominator ≤ bound :=
    Nat.div_le_of_le_mul (by rwa [Nat.mul_comm] at bounded)
  rcases quotient.lt_or_eq with below | atBound
  · simp only [nearest]
    split_ifs <;> omega
  · -- At the bound itself nothing is left over, so nothing is rounded up.
    have parts := Nat.div_add_mod numerator denominator
    rw [atBound, Nat.mul_comm] at parts
    have noRest : numerator % denominator = 0 := by omega
    simp [nearest, atBound, noRest, positive]

/-- The unit of a quotient of at most one is far below one. -/
theorem unitExponent_neg
    {numerator denominator : Nat}
    (bounded : numerator ≤ denominator) :
    unitExponent numerator denominator < -1 := by
  have logs : numerator.log2 ≤ denominator.log2 := by
    rw [Nat.log2_eq_log_two, Nat.log2_eq_log_two]
    exact Nat.log_mono_right bounded
  simp only [unitExponent, precision, minExponent]
  split_ifs <;> omega

/-- So many units below one do not exceed one exactly if they do not exceed the units of one. -/
theorem mul_zpow_negSucc_le_one_iff
    {mantissa below : Nat} :
    (mantissa : ℚ) * 2 ^ (Int.negSucc below) ≤ 1 ↔ mantissa ≤ 2 ^ (below + 1) := by
  rw [zpow_negSucc, ← div_eq_mul_inv, div_le_one₀ (by positivity)]
  exact_mod_cast Iff.rfl

/-- The double nearest to a quotient of at most one lies between zero and one. -/
theorem ofQuotient_of_le
    {numerator denominator : Nat}
    (positive : 0 < denominator)
    (bounded : numerator ≤ denominator) :
    ∃ mantissa exponent,
      ofQuotient false numerator denominator = .finite false mantissa exponent ∧
        (mantissa : ℚ) * 2 ^ exponent ≤ 1 := by
  rw [ofQuotient]
  split_ifs with isZero
  · exact ⟨0, minExponent, rfl, by simp⟩
  have negative := unitExponent_neg bounded
  obtain ⟨below, next⟩ : ∃ below : Nat,
      unitExponent numerator denominator + 1 = .negSucc below :=
    Int.eq_negSucc_of_lt_zero (by omega)
  have unit : unitExponent numerator denominator = .negSucc (below + 1) := by omega
  have mantissaBounded :
      nearest (numerator * 2 ^ (below + 2)) denominator ≤ 2 ^ (below + 2) := by
    apply nearest_le positive
    rw [Nat.mul_comm]
    exact Nat.mul_le_mul_left _ bounded
  simp only [unit, scaleDown, Nat.pow_eq]
  split_ifs with carries tooLarge tooLarge
  · simp only [maxExponent] at tooLarge
    omega
  · -- The mantissa overflows to the next unit, which is still below one.
    refine ⟨_, _, rfl, ?_⟩
    rw [carries] at mantissaBounded
    rw [← unit, next, mul_zpow_negSucc_le_one_iff]
    simp only [precision, Nat.pow_succ] at mantissaBounded ⊢
    omega
  · simp only [maxExponent] at tooLarge
    omega
  · exact ⟨_, _, rfl, mul_zpow_negSucc_le_one_iff.mpr mantissaBounded⟩

/-- The quotient of a whole number by one that is not less is a double between zero and one. -/
theorem divide?_of_le
    {numerator denominator : Int}
    (nonneg : 0 ≤ numerator)
    (positive : 0 < denominator)
    (bounded : numerator ≤ denominator) :
    ∃ quotient value, divide? numerator denominator = some quotient ∧
      quotient.value? = some value ∧ 0 ≤ value ∧ value ≤ 1 := by
  obtain ⟨mantissa, exponent, rounded, atMostOne⟩ :=
    @ofQuotient_of_le numerator.natAbs denominator.natAbs (by omega) (by omega)
  have noSign : (decide (numerator < 0) != decide (denominator < 0)) = false := by
    simp [nonneg.not_gt, positive.not_gt]
  refine ⟨.finite false mantissa exponent, mantissa * 2 ^ exponent, ?_, ?_, ?_, atMostOne⟩
  · simp only [divide?, noSign, rounded]
  · simp [value?]
  · positivity

end LineTally.Double
