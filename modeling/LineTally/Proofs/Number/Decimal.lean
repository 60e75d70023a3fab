import LineTally.Number.Decimal
import Mathlib.Data.List.Induction
import Mathlib.Tactic.IntervalCases
import Mathlib.Tactic.Ring
import Mathlib.Tactic.SplitIfs

namespace LineTally.Decimal

/-!
# Decimal notations can be read back

A number is written with its digits, the first of which is no zero unless it is the only
one.  So the digits tell the number, their count tells its power of ten, and no two whole
numbers have the same notation.
-/

section Digits

variable
  {value : Nat}

/-- The digit of a small number has this number as its value. -/
theorem digitValue_digit
    (small : value < 10) :
    digitValue (digit value) = value := by
  interval_cases value <;> rfl

/-- The digit of a small number is one. -/
theorem isDigit_digit
    (small : value < 10) :
    (digit value).isDigit = true := by
  interval_cases value <;> rfl

/-- Only the digit of zero is a zero. -/
theorem digit_eq_zero_iff
    (small : value < 10) :
    digit value = '0' ↔ value = 0 := by
  interval_cases value <;> decide

end Digits

/-- More fuel than the number does not change its digits. -/
theorem digitsWithin_eq
    {fuel other n : Nat}
    (enough : n < fuel)
    (alsoEnough : n < other) :
    digitsWithin fuel n = digitsWithin other n := by
  induction fuel generalizing other n with
  | zero =>
      omega
  | succ fuel inductionHypothesis =>
      obtain ⟨other, rfl⟩ := Nat.exists_eq_add_one_of_ne_zero (Nat.ne_zero_of_lt alsoEnough)
      rw [digitsWithin, digitsWithin]
      split_ifs
      · rfl
      · rw [@inductionHypothesis other (n / 10) (by omega) (by omega)]

/-- A number below ten is written by one digit. -/
theorem ofNat_of_lt
    {n : Nat}
    (small : n < 10) :
    ofNat n = [digit n] := by
  rw [ofNat, digitsWithin, if_pos small]

/-- The last digit of a number is the remainder by ten, and before it stands the quotient. -/
theorem ofNat_of_le
    {n : Nat}
    (large : 10 ≤ n) :
    ofNat n = ofNat (n / 10) ++ [digit (n % 10)] := by
  rw [ofNat, digitsWithin, if_neg (by omega), ofNat,
    @digitsWithin_eq n (n / 10 + 1) (n / 10) (by omega) (by omega)]

/-- What holds of the numbers below ten, and of a number if of its tenth, holds of all. -/
theorem tenfold_induction
    {property : Nat → Prop}
    (small : ∀ n, n < 10 → property n)
    (large : ∀ n, 10 ≤ n → property (n / 10) → property n)
    (n : Nat) :
    property n := by
  induction n using Nat.strong_induction_on with
  | _ n inductionHypothesis =>
      rcases Nat.lt_or_ge n 10 with below | above
      · exact small n below
      · exact large n above (inductionHypothesis _ (by omega))

/-- All characters of a natural number are digits. -/
theorem isDigit_of_mem_ofNat
    {n : Nat} :
    ∀ c ∈ ofNat n, c.isDigit = true := by
  induction n using tenfold_induction with
  | small n below =>
      rw [ofNat_of_lt below]
      simpa using isDigit_digit below
  | large n above inductionHypothesis =>
      rw [ofNat_of_le above]
      simp only [List.mem_append, List.mem_singleton]
      rintro c (before | rfl)
      · exact inductionHypothesis c before
      · exact isDigit_digit (by omega)

/-- Every number has a digit. -/
theorem ofNat_ne_nil
    (n : Nat) :
    ofNat n ≠ [] := by
  rcases Nat.lt_or_ge n 10 with below | above
  · simp [ofNat_of_lt below]
  · simp [ofNat_of_le above]

/-- The first digit of a positive number is no zero. -/
theorem head?_ofNat_ne_zero
    {n : Nat}
    (positive : 0 < n) :
    (ofNat n).head? ≠ some '0' := by
  induction n using tenfold_induction with
  | small n below =>
      rw [ofNat_of_lt below, List.head?_cons, ne_eq, Option.some.injEq, digit_eq_zero_iff below]
      omega
  | large n above inductionHypothesis =>
      have before := inductionHypothesis (by omega)
      obtain ⟨c, rest, digits⟩ := List.exists_cons_of_ne_nil (ofNat_ne_nil (n / 10))
      rw [digits, List.head?_cons] at before
      rwa [ofNat_of_le above, digits, List.cons_append, List.head?_cons]

section Values

/-- The value of digits that follow others. -/
theorem valueOf_append
    (front back : Text) :
    valueOf (front ++ back) = valueOf front * 10 ^ back.length + valueOf back := by
  induction back using List.reverseRecOn with
  | nil =>
      simp [valueOf, valueIn]
  | append_singleton back c inductionHypothesis =>
      simp only [valueOf, valueIn, ← List.append_assoc, List.map_append, List.foldl_append,
        List.map_cons, List.map_nil, List.foldl_cons, List.foldl_nil, List.length_append,
        List.length_singleton] at inductionHypothesis ⊢
      rw [inductionHypothesis, pow_succ]
      ring

/-- The value of one digit is the value of the digit. -/
theorem valueOf_singleton
    (c : Char) :
    valueOf [c] = digitValue c := by
  simp [valueOf, valueIn]

/-- Zeros alone have no value. -/
theorem valueOf_zeros
    (count : Nat) :
    valueOf (List.replicate count '0') = 0 := by
  induction count with
  | zero =>
      rfl
  | succ count inductionHypothesis =>
      rw [List.replicate_succ', valueOf_append, inductionHypothesis]
      rfl

/-- Zeros at the start do not change a value. -/
theorem valueOf_zeros_append
    (count : Nat)
    (digits : Text) :
    valueOf (List.replicate count '0' ++ digits) = valueOf digits := by
  rw [valueOf_append, valueOf_zeros, Nat.zero_mul, Nat.zero_add]

/-- Each zero at the end makes a value ten times as large. -/
theorem valueOf_append_zeros
    (digits : Text)
    (count : Nat) :
    valueOf (digits ++ List.replicate count '0') = valueOf digits * 10 ^ count := by
  rw [valueOf_append, valueOf_zeros, List.length_replicate, Nat.add_zero]

/-- The digits of a number have its value. -/
theorem valueOf_ofNat
    (n : Nat) :
    valueOf (ofNat n) = n := by
  induction n using tenfold_induction with
  | small n below =>
      rw [ofNat_of_lt below, valueOf_singleton, digitValue_digit below]
  | large n above inductionHypothesis =>
      rw [ofNat_of_le above, valueOf_append, inductionHypothesis, valueOf_singleton,
        digitValue_digit (by omega), List.length_singleton, pow_one]
      omega

end Values

/-- The digits of a positive number are as many as its power of ten says. -/
theorem length_ofNat_bounds
    {n : Nat}
    (positive : 0 < n) :
    10 ^ ((ofNat n).length - 1) ≤ n ∧ n < 10 ^ (ofNat n).length := by
  induction n using tenfold_induction with
  | small n below =>
      rw [ofNat_of_lt below]
      simp only [List.length_singleton, Nat.sub_self, pow_zero, pow_one]
      exact ⟨positive, below⟩
  | large n above inductionHypothesis =>
      obtain ⟨lower, upper⟩ := inductionHypothesis (by omega)
      obtain ⟨size, isSize⟩ :=
        Nat.exists_eq_add_one_of_ne_zero (List.length_pos_iff.mpr (ofNat_ne_nil (n / 10))).ne'
      rw [isSize, Nat.add_sub_cancel] at lower
      rw [isSize] at upper
      rw [ofNat_of_le above, List.length_append, List.length_singleton, Nat.add_sub_cancel, isSize]
      simp only [pow_succ] at upper ⊢
      omega

section Whole

/-- An integer that is not negative is written with its digits alone. -/
theorem ofInt_of_nonneg
    {value : Int}
    (nonneg : 0 ≤ value) :
    ofInt value = ofNat value.natAbs := by
  obtain ⟨n, rfl⟩ := Int.eq_ofNat_of_zero_le nonneg
  rfl

/-- A negative integer is written with a sign before its digits. -/
theorem ofInt_of_neg
    {value : Int}
    (negative : value < 0) :
    ofInt value = '-' :: ofNat value.natAbs := by
  obtain ⟨n, rfl⟩ := Int.eq_negSucc_of_lt_zero negative
  rfl

/-- The characters of a whole number are digits and a minus sign. -/
theorem mem_ofInt
    {value : Int}
    {c : Char}
    (member : c ∈ ofInt value) :
    c = '-' ∨ c.isDigit = true := by
  rcases lt_or_ge value 0 with negative | nonneg
  · rw [ofInt_of_neg negative, List.mem_cons] at member
    exact member.imp_right (isDigit_of_mem_ofNat c)
  · rw [ofInt_of_nonneg nonneg] at member
    exact .inr (isDigit_of_mem_ofNat c member)

/-- The whole number that a notation stands for. -/
def toInt :
    Text → Int
  | '-' :: digits => -(valueOf digits : Int)
  | digits => valueOf digits

/-- A whole number is read back from its notation. -/
theorem toInt_ofInt
    (value : Int) :
    toInt (ofInt value) = value := by
  rcases lt_or_ge value 0 with negative | nonneg
  · rw [ofInt_of_neg negative, toInt, valueOf_ofNat]
    omega
  · have noSign : '-' ∉ ofNat value.natAbs := by
      intro member
      exact absurd (isDigit_of_mem_ofNat '-' member) (by decide)
    rw [ofInt_of_nonneg nonneg, toInt, valueOf_ofNat]
    · omega
    · rintro digits isNotation
      exact noSign (by simp [isNotation])

end Whole

end LineTally.Decimal
