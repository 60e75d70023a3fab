import LineTally.Json.Printer
import LineTally.Json.Reader
import LineTally.Proofs.Json.Grammar
import LineTally.Proofs.Number.Numeral

namespace LineTally.Json

/-!
# Numbers in documents

A number ends where the text goes on with a character that cannot belong to one.  Whole
numbers are read back digit by digit.  The notation of a finite double has a point or a
power of ten, so it is told apart from them and read back by rounding.
-/

open Grammar
open Double (Numeral)

/-- No digit, point or exponent comes next. -/
def EndsNumber
    (rest : Text) :
    Prop :=
  ∀ c, rest.head? = some c → c.isDigit = false ∧ c ≠ '.' ∧ c ≠ 'e' ∧ c ≠ 'E'

section Parts

variable
  {digits rest : Text}

/-- A run of digits is read up to the first character that is none. -/
theorem takeWhile_isDigit
    (areDigits : ∀ c ∈ digits, c.isDigit = true)
    (ends : ∀ c, rest.head? = some c → c.isDigit = false) :
    (digits ++ rest).takeWhile Char.isDigit = digits ∧
      (digits ++ rest).dropWhile Char.isDigit = rest := by
  rw [List.takeWhile_append_of_pos areDigits, List.dropWhile_append_of_pos areDigits]
  cases rest with
  | nil =>
      simp
  | cons c rest =>
      simp [ends c rfl]

/-- Where a number ends, there is no fraction to be read. -/
theorem readFraction_of_ends
    (ends : EndsNumber rest) :
    readFraction rest = ([], rest) := by
  unfold readFraction
  split
  · exact absurd rfl (ends '.' rfl).2.1
  · rfl

/-- Where a number ends, there is no exponent to be read. -/
theorem readExponent?_of_ends
    (ends : EndsNumber rest) :
    readExponent? rest = none := by
  cases rest with
  | nil =>
      rfl
  | cons c rest =>
      simp [readExponent?, (ends c rfl).2.2]

/-- A fraction is read up to the first character that is no digit. -/
theorem readFraction_point
    (areDigits : AreDigits digits)
    (ends : ∀ c, rest.head? = some c → c.isDigit = false) :
    readFraction ('.' :: (digits ++ rest)) = (digits, rest) := by
  obtain ⟨taken, dropped⟩ := takeWhile_isDigit areDigits.2 ends
  simp [readFraction, taken, dropped, areDigits.1]

/-- The digits of a written power of ten. -/
theorem padLeft_spec
    (n : Nat) :
    AreDigits (Decimal.padLeft 2 (Decimal.ofNat n)) ∧
      Decimal.valueOf (Decimal.padLeft 2 (Decimal.ofNat n)) = n := by
  refine ⟨⟨by simp [Decimal.padLeft, Decimal.ofNat_ne_nil], fun c member => ?_⟩, ?_⟩
  · rcases List.mem_append.mp member with zero | digit
    · exact Double.isDigit_of_mem_zeros c zero
    · exact Decimal.isDigit_of_mem_ofNat c digit
  · rw [Decimal.padLeft, Decimal.valueOf_zeros_append, Decimal.valueOf_ofNat]

/-- A written power of ten is read back. -/
theorem readExponent?_powerText
    (power : Int)
    (ends : EndsNumber rest) :
    readExponent? (Numeral.powerText power ++ rest) = some (power, rest) := by
  obtain ⟨areDigits, value⟩ := padLeft_spec power.natAbs
  obtain ⟨taken, dropped⟩ := takeWhile_isDigit areDigits.2 (fun c isHead => (ends c isHead).1)
  rw [Numeral.powerText]
  split_ifs with negative
  · simp [readExponent?, taken, dropped, areDigits.1, value, abs_of_neg negative]
  · simp [readExponent?, taken, dropped, areDigits.1, value, abs_of_nonneg (not_lt.mp negative)]

end Parts

/-- What a number is read as, once its sign and the digits before the point are read. -/
def readAfterWhole?
    (negative : Bool)
    (whole rest : Text) :
    Option (Json × Text) :=
  let (fraction, rest) := readFraction rest
  match readExponent? rest with
  | some (power, rest) =>
      let digits := Decimal.valueOf (whole ++ fraction)
      some (.real (.ofDecimal negative digits (power - fraction.length)), rest)
  | none =>
      if fraction.isEmpty then
        let value : Int := Decimal.valueOf whole
        some (.integer (if negative then -value else value), rest)
      else
        let digits := Decimal.valueOf (whole ++ fraction)
        some (.real (.ofDecimal negative digits (-(fraction.length : Int))), rest)

/-- A number is read from its sign, its digits before the point and what follows. -/
theorem readNumber?_signed
    {whole rest : Text}
    (areDigits : AreDigits whole)
    (ends : ∀ c, rest.head? = some c → c.isDigit = false)
    (negative : Bool) :
    readNumber? ((if negative then ['-'] else []) ++ (whole ++ rest)) =
      readAfterWhole? negative whole rest := by
  obtain ⟨taken, dropped⟩ := takeWhile_isDigit areDigits.2 ends
  have notEmpty : whole.isEmpty = false := by simpa using areDigits.1
  have noSign : ∀ more, whole ++ rest ≠ '-' :: more := by
    obtain ⟨first, others, rfl⟩ := List.exists_cons_of_ne_nil areDigits.1
    intro more isSigned
    have isMinus : first = '-' := (List.cons.inj isSigned).1
    have := areDigits.2 first (by simp)
    rw [isMinus] at this
    exact absurd this (by decide)
  cases negative with
  | true =>
      simp only [readNumber?, ↓reduceIte, List.singleton_append, taken, dropped, notEmpty,
        Bool.false_eq_true]
      rfl
  | false =>
      simp only [Bool.false_eq_true, ↓reduceIte, List.nil_append]
      unfold readNumber?
      split
      next negative unsigned isRead =>
        split at isRead
        next isSigned =>
          exact absurd isSigned (noSign _)
        next =>
          cases isRead
          simp only [taken, dropped, notEmpty, Bool.false_eq_true, ↓reduceIte]
          rfl

/-- A whole number is read back. -/
theorem readNumber?_ofInt
    (value : Int)
    {rest : Text}
    (ends : EndsNumber rest) :
    readNumber? (Decimal.ofInt value ++ rest) = some (.integer value, rest) := by
  have areDigits : AreDigits (Decimal.ofNat value.natAbs) :=
    ⟨Decimal.ofNat_ne_nil _, Decimal.isDigit_of_mem_ofNat⟩
  have isSigned : Decimal.ofInt value =
      (if decide (value < 0) then ['-'] else []) ++ Decimal.ofNat value.natAbs := by
    rcases lt_or_ge value 0 with negative | nonneg
    · simp [Decimal.ofInt_of_neg negative, negative]
    · simp [Decimal.ofInt_of_nonneg nonneg, nonneg.not_gt]
  rw [isSigned, List.append_assoc,
    readNumber?_signed areDigits (fun c isHead => (ends c isHead).1)]
  simp only [readAfterWhole?, readFraction_of_ends ends, readExponent?_of_ends ends,
    List.isEmpty_nil, ↓reduceIte, Decimal.valueOf_ofNat]
  congr 3
  split_ifs with negative <;> simp at negative <;> omega

/-- The text of a proper numeral is read as the double that it shows. -/
theorem readNumber?_numeral
    {numeral : Numeral}
    (proper : numeral.IsProper)
    (negative : Bool)
    {rest : Text}
    (ends : EndsNumber rest) :
    readNumber? ((if negative then ['-'] else []) ++ numeral.text ++ rest) =
      some (.real (.ofDecimal negative numeral.digits numeral.unitPower), rest) := by
  obtain ⟨whole, fraction, power⟩ := numeral
  have areDigits : AreDigits whole := ⟨proper.wholeNonempty, proper.wholeDigits⟩
  have areFractionDigits := proper.fractionDigits
  have notWhole := proper.notWhole
  have noDigit : ∀ c, rest.head? = some c → c.isDigit = false :=
    fun c isHead => (ends c isHead).1
  have powerEnds (power : Int) :
      ∀ c, (Numeral.powerText power ++ rest).head? = some c → c.isDigit = false := by
    intro c isHead
    cases isHead
    decide
  simp only [Numeral.text, Numeral.digits, Numeral.unitPower, List.append_assoc] at *
  by_cases noFraction : fraction = []
  · -- Without a fraction there is a power.
    subst noFraction
    obtain ⟨power, rfl⟩ := Option.isSome_iff_exists.mp (notWhole.resolve_left (by simp))
    have noFraction : readFraction (Numeral.powerText power ++ rest) =
        ([], Numeral.powerText power ++ rest) := rfl
    simp only [List.isEmpty_nil, ↓reduceIte, List.nil_append, Option.map_some, Option.getD_some]
    rw [readNumber?_signed areDigits (powerEnds power)]
    simp [readAfterWhole?, noFraction, readExponent?_powerText power ends]
  · have areMoreDigits : AreDigits fraction := ⟨noFraction, areFractionDigits⟩
    have notEmpty : fraction.isEmpty = false := by simpa using noFraction
    simp only [notEmpty, Bool.false_eq_true, ↓reduceIte]
    cases power with
    | none =>
        simp only [Option.map_none, Option.getD_none, List.nil_append, List.cons_append]
        rw [readNumber?_signed areDigits (by rintro c ⟨⟩; decide)]
        simp [readAfterWhole?, readFraction_point areMoreDigits noDigit,
          readExponent?_of_ends ends, noFraction]
    | some power =>
        simp only [Option.map_some, Option.getD_some, List.cons_append]
        rw [readNumber?_signed areDigits (by rintro c ⟨⟩; decide)]
        simp [readAfterWhole?, readFraction_point areMoreDigits (powerEnds power),
          readExponent?_powerText power ends]

/-- A written power of ten is an exponent. -/
theorem isExponent_powerText
    (power : Int) :
    IsExponent (Numeral.powerText power) := by
  refine .signed (.inl rfl) ?_ (padLeft_spec power.natAbs).1
  split_ifs
  · exact .inr rfl
  · exact .inl rfl

/-- The text of a proper numeral is a number. -/
theorem isNumber_numeral
    {numeral : Numeral}
    (proper : numeral.IsProper)
    (negative : Bool) :
    IsNumber ((if negative then ['-'] else []) ++ numeral.text) := by
  have isWhole : IsWhole numeral.whole := by
    rcases proper.noLeadingZero with zero | noZero
    · rw [zero]
      exact .zero
    · exact .digits ⟨proper.wholeNonempty, proper.wholeDigits⟩ noZero
  have isFraction : IsFraction
      (if numeral.fraction.isEmpty then [] else '.' :: numeral.fraction) := by
    split_ifs with empty
    · exact .absent
    · exact .point ⟨by simpa using empty, proper.fractionDigits⟩
  have isExponent : IsExponent ((numeral.power.map Numeral.powerText).getD []) := by
    cases numeral.power with
    | none => exact .absent
    | some power => exact isExponent_powerText power
  rw [Numeral.text]
  cases negative with
  | true =>
      rw [if_pos rfl, List.singleton_append]
      exact .negative isWhole isFraction isExponent
  | false =>
      rw [if_neg (by decide), List.nil_append]
      exact .unsigned isWhole isFraction isExponent

/-- The notation of a whole number is a number. -/
theorem isNumber_ofInt
    (value : Int) :
    IsNumber (Decimal.ofInt value) := by
  have isWhole : IsWhole (Decimal.ofNat value.natAbs) := by
    rcases Nat.eq_zero_or_pos value.natAbs with zero | positive
    · rw [zero]
      exact .zero
    · exact .digits ⟨Decimal.ofNat_ne_nil _, Decimal.isDigit_of_mem_ofNat⟩
        (Decimal.head?_ofNat_ne_zero positive)
  rcases lt_or_ge value 0 with negative | nonneg
  · rw [Decimal.ofInt_of_neg negative]
    simpa using IsNumber.negative isWhole .absent .absent
  · rw [Decimal.ofInt_of_nonneg nonneg]
    simpa using IsNumber.unsigned isWhole .absent .absent

/-- A number starts with a minus sign or a digit. -/
theorem head_of_isNumber
    {text : Text}
    (isNumber : IsNumber text) :
    ∃ c rest, text = c :: rest ∧ (c = '-' ∨ c.isDigit = true) := by
  have wholeHead {whole : Text} (isWhole : IsWhole whole) :
      ∃ c rest, whole = c :: rest ∧ c.isDigit = true := by
    cases isWhole with
    | zero => exact ⟨'0', [], rfl, by decide⟩
    | digits areDigits =>
        obtain ⟨c, rest, rfl⟩ := List.exists_cons_of_ne_nil areDigits.1
        exact ⟨c, rest, rfl, areDigits.2 c (by simp)⟩
  cases isNumber with
  | unsigned isWhole =>
      obtain ⟨c, rest, rfl, isDigit⟩ := wholeHead isWhole
      exact ⟨c, _, rfl, .inr isDigit⟩
  | negative =>
      exact ⟨'-', _, rfl, .inl rfl⟩

/-- Digits are ASCII characters. -/
theorem ascii_of_isDigit
    {c : Char}
    (isDigit : c.isDigit = true) :
    c.toNat < 128 := by
  simp only [Char.isDigit, Bool.and_eq_true, decide_eq_true_eq] at isDigit
  have : c.toNat ≤ 57 := isDigit.2
  omega

/-- All characters of a number are ASCII characters. -/
theorem ascii_of_isNumber
    {text : Text}
    (isNumber : IsNumber text) :
    ∀ c ∈ text, c.toNat < 128 := by
  have digits {digits : Text} (areDigits : AreDigits digits) : ∀ c ∈ digits, c.toNat < 128 :=
    fun c member => ascii_of_isDigit (areDigits.2 c member)
  have wholeAscii {whole : Text} (isWhole : IsWhole whole) : ∀ c ∈ whole, c.toNat < 128 := by
    cases isWhole with
    | zero => simp
    | digits areDigits => exact digits areDigits
  have fractionAscii {fraction : Text} (isFraction : IsFraction fraction) :
      ∀ c ∈ fraction, c.toNat < 128 := by
    cases isFraction with
    | absent => simp
    | point areDigits => simpa using digits areDigits
  have exponentAscii {exponent : Text} (isExponent : IsExponent exponent) :
      ∀ c ∈ exponent, c.toNat < 128 := by
    cases isExponent with
    | absent => simp
    | unsigned isLetter areDigits =>
        rcases isLetter with rfl | rfl <;> simpa using digits areDigits
    | signed isLetter isSign areDigits =>
        rcases isLetter with rfl | rfl <;> rcases isSign with rfl | rfl <;>
          simpa using digits areDigits
  intro c member
  cases isNumber with
  | unsigned isWhole isFraction isExponent =>
      simp only [List.mem_append] at member
      rcases member with member | member | member
      · exact wholeAscii isWhole c member
      · exact fractionAscii isFraction c member
      · exact exponentAscii isExponent c member
  | negative isWhole isFraction isExponent =>
      simp only [List.mem_cons, List.mem_append] at member
      rcases member with rfl | member | member | member
      · decide
      · exact wholeAscii isWhole c member
      · exact fractionAscii isFraction c member
      · exact exponentAscii isExponent c member

/-- A finite double with a mantissa as long as it can be. -/
def IsFinite :
    Double → Prop
  | .finite _ mantissa exponent => Double.IsRounded mantissa exponent
  | .infinite _ | .nan => False

/-- The notation of a finite double is a number. -/
theorem isNumber_toText
    {value : Double}
    (isFinite : IsFinite value) :
    IsNumber value.toText := by
  cases value with
  | finite negative mantissa exponent =>
      obtain ⟨numeral, proper, isText, -⟩ := Double.exists_numeral isFinite negative
      rw [isText]
      exact isNumber_numeral proper negative
  | infinite => exact isFinite.elim
  | nan => exact isFinite.elim

/-- A finite double is read back. -/
theorem readNumber?_toText
    {value : Double}
    (isFinite : IsFinite value)
    {rest : Text}
    (ends : EndsNumber rest) :
    readNumber? (value.toText ++ rest) = some (.real value, rest) := by
  cases value with
  | finite negative mantissa exponent =>
      obtain ⟨numeral, proper, isText, isRead⟩ := Double.exists_numeral isFinite negative
      rw [isText, readNumber?_numeral proper negative ends, isRead]
  | infinite => exact isFinite.elim
  | nan => exact isFinite.elim

end LineTally.Json
