import LineTally.Proofs.Number.Shortest
import Mathlib.Data.List.TakeWhile
import Mathlib.Tactic.FieldSimp
import Mathlib.Tactic.Linarith
import Mathlib.Tactic.Positivity
import Mathlib.Tactic.Ring

namespace LineTally.Double

/-!
# The notation of a finite double

The notation of a double without its sign has digits before the point and either digits
behind it or a power of ten, or both.  Whichever of its forms is chosen, the decimal
number that it shows is the one that the search found.
-/

/-- The parts of the notation of a number: digits on both sides of the point, a power of ten. -/
structure Numeral where
  whole : Text
  fraction : Text
  power : Option Int
  deriving Repr, DecidableEq

namespace Numeral

/-- The notation of the power of ten, with a sign and two digits at least. -/
def powerText
    (power : Int) :
    Text :=
  'e' :: (if power < 0 then '-' else '+') :: Decimal.padLeft 2 (Decimal.ofNat power.natAbs)

/-- The text of a numeral. -/
def text
    (numeral : Numeral) :
    Text :=
  numeral.whole ++ ((if numeral.fraction.isEmpty then [] else '.' :: numeral.fraction)
    ++ (numeral.power.map powerText).getD [])

/-- The number that all the digits stand for. -/
def digits
    (numeral : Numeral) :
    Nat :=
  Decimal.valueOf (numeral.whole ++ numeral.fraction)

/-- The power of ten of the last digit. -/
def unitPower
    (numeral : Numeral) :
    Int :=
  numeral.power.getD 0 - numeral.fraction.length

/-- A numeral whose parts are as the grammar of numbers that are not whole wants them. -/
structure IsProper
    (numeral : Numeral) :
    Prop where
  wholeDigits : ∀ c ∈ numeral.whole, c.isDigit = true
  wholeNonempty : numeral.whole ≠ []
  noLeadingZero : numeral.whole = ['0'] ∨ numeral.whole.head? ≠ some '0'
  fractionDigits : ∀ c ∈ numeral.fraction, c.isDigit = true
  notWhole : numeral.fraction ≠ [] ∨ numeral.power.isSome = true

/-- A numeral shows a number, in digits that are not too many to be read exactly. -/
structure Shows
    (numeral : Numeral)
    (number : ℚ) :
    Prop where
  isProper : numeral.IsProper
  number_eq : (numeral.digits : ℚ) * 10 ^ numeral.unitPower = number
  digits_lt : numeral.digits < 10 ^ 18
  le_unitPower : -400 ≤ numeral.unitPower

end Numeral

/-- Digits of a positive number, of which the first is no zero. -/
structure AreLeading
    (digits : Text) :
    Prop where
  nonempty : digits ≠ []
  areDigits : ∀ c ∈ digits, c.isDigit = true
  noZero : digits.head? ≠ some '0'

/-- What is dropped from the end of a run of digits are zeros. -/
theorem exists_eq_dropZeros_append
    (digits : Text) :
    ∃ zeros, digits = dropZeros digits ++ List.replicate zeros '0' := by
  have parts := @List.takeWhile_append_dropWhile _ (fun c => decide (c = '0')) digits.reverse
  have areZeros : ∀ c ∈ digits.reverse.takeWhile (fun c => decide (c = '0')), c = '0' := by
    intro c member
    simpa using List.mem_takeWhile_imp member
  rw [← List.eq_replicate_length] at areZeros
  refine ⟨(digits.reverse.takeWhile (fun c => decide (c = '0'))).length, ?_⟩
  rw [dropZeros, ← List.reverse_replicate, ← areZeros, ← List.reverse_append, parts,
    List.reverse_reverse]

/-- The digits of a positive number without the zeros at their end. -/
theorem areLeading_dropZeros
    {n : Nat}
    (positive : 0 < n) :
    AreLeading (dropZeros (Decimal.ofNat n)) := by
  obtain ⟨zeros, parts⟩ := exists_eq_dropZeros_append (Decimal.ofNat n)
  have areDigits := @Decimal.isDigit_of_mem_ofNat n
  have noZero := Decimal.head?_ofNat_ne_zero positive
  have nonempty := Decimal.ofNat_ne_nil n
  generalize dropZeros (Decimal.ofNat n) = digits at parts ⊢
  rw [parts] at areDigits noZero nonempty
  cases digits with
  | nil =>
      cases zeros with
      | zero => exact absurd rfl nonempty
      | succ zeros => exact absurd rfl noZero
  | cons first rest =>
      exact ⟨List.cons_ne_nil _ _, fun c member => areDigits c (List.mem_append_left _ member),
        noZero⟩

section Forms

variable
  {digits : Text}
  {point : Int}

/-- The value of a run of digits has no more digits than the run. -/
theorem valueOf_lt
    (areDigits : ∀ c ∈ digits, c.isDigit = true) :
    Decimal.valueOf digits < 10 ^ digits.length := by
  induction digits using List.reverseRecOn with
  | nil =>
      simp [Decimal.valueOf, Decimal.valueIn]
  | append_singleton front last inductionHypothesis =>
      have before := inductionHypothesis (fun c member => areDigits c (by simp [member]))
      have lastDigit := areDigits last (by simp)
      have small : Decimal.digitValue last < 10 := by
        simp only [Char.isDigit, Bool.and_eq_true, decide_eq_true_eq] at lastDigit
        have : last.toNat ≤ 57 := lastDigit.2
        simp only [Decimal.digitValue, Char.reduceToNat]
        omega
      rw [Decimal.valueOf_append, Decimal.valueOf_singleton, List.length_append,
        List.length_singleton, pow_one, pow_succ]
      omega

/-- The numeral without a power of ten. -/
def positionalNumeral
    (digits : Text)
    (point : Int) :
    Numeral :=
  if point ≤ 0 then
    ⟨['0'], List.replicate (-point).toNat '0' ++ digits, none⟩
  else if digits.length ≤ point.toNat then
    ⟨digits ++ List.replicate (point.toNat - digits.length) '0', ['0'], none⟩
  else
    ⟨digits.take point.toNat, digits.drop point.toNat, none⟩

/-- The numeral with a power of ten, which has one digit before the point. -/
def scientificNumeral
    (digits : Text)
    (power : Int) :
    Numeral :=
  ⟨digits.take 1, digits.drop 1, some power⟩

/-- Digits around a point are written as their positional numeral. -/
theorem positionalText_eq
    (nonempty : digits ≠ []) :
    positionalText digits point = (positionalNumeral digits point).text := by
  rw [positionalText, positionalNumeral]
  split_ifs with below within
  · simp [Numeral.text, nonempty]
  · simp [Numeral.text]
  · have : digits.drop point.toNat ≠ [] := by
      simp only [ne_eq, List.drop_eq_nil_iff]
      omega
    simp [Numeral.text, this]

/-- Digits with a power are written as their scientific numeral. -/
theorem scientificText_eq
    (nonempty : digits ≠ [])
    (power : Int) :
    scientificText digits power = (scientificNumeral digits power).text := by
  obtain ⟨first, rest, rfl⟩ := List.exists_cons_of_ne_nil nonempty
  cases rest with
  | nil =>
      simp [scientificText, scientificNumeral, Numeral.text, Numeral.powerText]
  | cons second rest =>
      simp [scientificText, scientificNumeral, Numeral.text, Numeral.powerText]

/-- Zeros are digits. -/
theorem isDigit_of_mem_zeros
    {count : Nat} :
    ∀ c ∈ List.replicate count '0', c.isDigit = true := by
  intro c member
  rw [List.eq_of_mem_replicate member]
  decide

/-- The numeral without a power of ten is proper. -/
theorem positionalNumeral_isProper
    (leading : AreLeading digits) :
    (positionalNumeral digits point).IsProper := by
  rw [positionalNumeral]
  split_ifs with below within
  · refine ⟨by simp, by simp, .inl rfl, fun c member => ?_, .inl (by simp [leading.nonempty])⟩
    rcases List.mem_append.mp member with zero | digit
    · exact isDigit_of_mem_zeros c zero
    · exact leading.areDigits c digit
  · refine ⟨fun c member => ?_, by simp [leading.nonempty], .inr ?_, by simp, .inl (by simp)⟩
    · rcases List.mem_append.mp member with digit | zero
      · exact leading.areDigits c digit
      · exact isDigit_of_mem_zeros c zero
    · rw [List.head?_append_of_ne_nil _ leading.nonempty]
      exact leading.noZero
  · have inside : 0 < point.toNat := by omega
    refine ⟨fun c member => ?_, ?_, .inr ?_, fun c member => ?_, .inl ?_⟩
    · exact leading.areDigits c (List.mem_of_mem_take member)
    · simp only [ne_eq, List.take_eq_nil_iff, leading.nonempty, or_false]
      omega
    · rw [List.head?_take, if_neg (by omega)]
      exact leading.noZero
    · exact leading.areDigits c (List.mem_of_mem_drop member)
    · simp only [ne_eq, List.drop_eq_nil_iff]
      omega

/-- The numeral without a power of ten shows the digits with the point where it was set. -/
theorem positionalNumeral_shows
    (leading : AreLeading digits)
    (few : Decimal.valueOf digits < 10 ^ 18)
    (notLarge : point ≤ 16)
    (notTiny : -400 ≤ point - digits.length) :
    (positionalNumeral digits point).Shows
      (Decimal.valueOf digits * 10 ^ (point - digits.length)) := by
  have proper := @positionalNumeral_isProper digits point leading
  have bound := valueOf_lt leading.areDigits
  rw [positionalNumeral] at proper ⊢
  split_ifs at proper ⊢ with below within
  · have sameValue : Decimal.valueOf (['0'] ++ (List.replicate (-point).toNat '0' ++ digits)) =
        Decimal.valueOf digits := by
      rw [← List.append_assoc, List.singleton_append, ← List.replicate_succ,
        Decimal.valueOf_zeros_append]
    have unit : (0 : Int) - (List.replicate (-point).toNat '0' ++ digits).length =
        point - digits.length := by
      simp only [List.length_append, List.length_replicate]
      omega
    exact ⟨proper,
      by simp only [Numeral.digits, Numeral.unitPower, sameValue, Option.getD_none, unit],
      by simpa only [Numeral.digits, sameValue],
      by simpa only [Numeral.unitPower, Option.getD_none, unit]⟩
  · -- The zeros up to the point and the one behind it are digits of the numeral, too.
    obtain ⟨zeros, isZeros⟩ := Nat.exists_eq_add_of_le within
    have moreDigits : Decimal.valueOf
        (digits ++ List.replicate (point.toNat - digits.length) '0' ++ ['0']) =
          Decimal.valueOf digits * 10 ^ (zeros + 1) := by
      rw [isZeros, Nat.add_sub_cancel_left, List.append_assoc, ← List.replicate_succ',
        Decimal.valueOf_append_zeros]
    have isPoint : point - digits.length = zeros := by omega
    have stillFew : Decimal.valueOf digits * 10 ^ (zeros + 1) < 10 ^ 18 :=
      calc Decimal.valueOf digits * 10 ^ (zeros + 1)
          < 10 ^ digits.length * 10 ^ (zeros + 1) :=
            Nat.mul_lt_mul_of_pos_right bound (by positivity)
        _ = 10 ^ (digits.length + (zeros + 1)) := (pow_add _ _ _).symm
        _ ≤ 10 ^ 18 := Nat.pow_le_pow_right (by decide) (by omega)
    refine ⟨proper, ?_, ?_, ?_⟩
    · simp only [Numeral.digits, Numeral.unitPower, moreDigits, isPoint, Option.getD_none,
        List.length_singleton, zpow_natCast]
      push_cast
      rw [zpow_neg_one, pow_succ]
      field_simp
    · simpa only [Numeral.digits, moreDigits]
    · simp [Numeral.unitPower]
  · have unit : (0 : Int) - (digits.drop point.toNat).length = point - digits.length := by
      rw [List.length_drop]
      omega
    exact ⟨proper,
      by simp only [Numeral.digits, Numeral.unitPower, List.take_append_drop, Option.getD_none,
        unit],
      by simpa only [Numeral.digits, List.take_append_drop],
      by simpa only [Numeral.unitPower, Option.getD_none, unit]⟩

/-- The numeral with a power of ten shows the digits with the point behind the first. -/
theorem scientificNumeral_shows
    (leading : AreLeading digits)
    (few : Decimal.valueOf digits < 10 ^ 18)
    {power : Int}
    (notTiny : -400 ≤ power + 1 - digits.length) :
    (scientificNumeral digits power).Shows
      (Decimal.valueOf digits * 10 ^ (power + 1 - digits.length)) := by
  obtain ⟨first, rest, rfl⟩ := List.exists_cons_of_ne_nil leading.nonempty
  have unit : (power : Int) - rest.length = power + 1 - (first :: rest).length := by
    rw [List.length_cons]
    push_cast
    ring
  have proper : (scientificNumeral (first :: rest) power).IsProper := by
    refine ⟨?_, List.cons_ne_nil _ _, .inr leading.noZero, ?_, .inr rfl⟩
    · rintro c member
      rw [List.mem_singleton.mp member]
      exact leading.areDigits first (by simp)
    · intro c member
      exact leading.areDigits c (List.mem_cons_of_mem _ member)
  refine ⟨proper, ?_, few, ?_⟩
  · rw [← unit]
    rfl
  · rw [← unit] at notTiny
    exact notTiny

end Forms

/-- The notation of a finite double without its sign is the text of a numeral that is read as it. -/
theorem exists_numeral
    {mantissa : Nat}
    {exponent : Int}
    (rounded : IsRounded mantissa exponent)
    (negative : Bool) :
    ∃ numeral : Numeral, numeral.IsProper ∧
      toText (.finite negative mantissa exponent) =
        (if negative then ['-'] else []) ++ numeral.text ∧
        ofDecimal negative numeral.digits numeral.unitPower =
          .finite negative mantissa exponent := by
  have signed (unsigned : Text) :
      (if negative then '-' :: unsigned else unsigned) =
        (if negative then ['-'] else []) ++ unsigned := by
    cases negative <;> rfl
  rcases Nat.eq_zero_or_pos mantissa with zero | positive
  · -- Zero has the least unit, since its mantissa is not long.
    have least : exponent = minExponent :=
      rounded.long.resolve_right (by rw [zero, precision]; decide)
    refine ⟨⟨['0'], ['0'], none⟩, ⟨by simp, by simp, .inl rfl, by simp, .inl (by simp)⟩, ?_, ?_⟩
    · rw [toText, if_pos zero, signed]
      rfl
    · rw [zero, least]
      rfl
  obtain ⟨rounds, fewDigits, notTiny⟩ := shortest_spec rounded positive
  generalize isFound : shortest mantissa exponent = found at *
  have foundPos : 0 < found.digits := by
    have := rounds.pos positive
    rw [mul_pos_iff_of_pos_right (by positivity)] at this
    exact_mod_cast this
  have leading := areLeading_dropZeros foundPos
  obtain ⟨zeros, parts⟩ := exists_eq_dropZeros_append (Decimal.ofNat found.digits)
  have value := Decimal.valueOf_ofNat found.digits
  have allDigits := congrArg List.length parts
  rw [List.length_append, List.length_replicate] at allDigits
  rw [parts, Decimal.valueOf_append_zeros] at value
  generalize isKept : dropZeros (Decimal.ofNat found.digits) = kept at *
  have few : Decimal.valueOf kept < 10 ^ 18 := by
    have := Nat.le_mul_of_pos_right (Decimal.valueOf kept) (show 0 < 10 ^ zeros by positivity)
    omega
  have sameNumber : (Decimal.valueOf kept : ℚ) * 10 ^ (found.power + zeros) =
      found.digits * 10 ^ found.power := by
    rw [← value, zpow_add₀ (by norm_num), zpow_natCast]
    push_cast
    ring
  have reads (numeral : Numeral)
      (shows : numeral.Shows (found.digits * 10 ^ found.power)) :
      ofDecimal negative numeral.digits numeral.unitPower =
        .finite negative mantissa exponent := by
    rw [← shows.number_eq] at rounds
    exact rounds.ofDecimal_eq rounded positive shows.digits_lt shows.le_unitPower negative
  rw [toText, if_neg positive.ne', signed]
  generalize (if negative = true then ['-'] else []) = sign
  simp only [isFound, isKept, allDigits]
  have unit : ((kept.length + zeros : Nat) : Int) + found.power - kept.length =
      found.power + zeros := by
    push_cast
    ring
  split_ifs with inside
  · simp only [Bool.and_eq_true, decide_eq_true_eq] at inside
    have shows := positionalNumeral_shows leading few inside.2 (by omega)
    rw [unit, sameNumber] at shows
    exact ⟨_, shows.isProper, by rw [positionalText_eq leading.nonempty], reads _ shows⟩
  · have shows := @scientificNumeral_shows kept leading few
      ((kept.length + zeros : Nat) + found.power - 1) (by omega)
    rw [sub_add_cancel, unit, sameNumber] at shows
    exact ⟨_, shows.isProper, by rw [scientificText_eq leading.nonempty], reads _ shows⟩

end LineTally.Double
