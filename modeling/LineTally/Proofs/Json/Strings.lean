import LineTally.Json.Printer
import LineTally.Json.Reader
import LineTally.Proofs.Json.Grammar
import LineTally.Proofs.Number.Decimal

namespace LineTally.Json

/-!
# Strings in documents

A string is written by its UTF-16 units, each of them plain, by a short escape or by four
hexadecimal digits.  The reader gets the same units and joins the pairs that stand for one
character, so every text is read back.
-/

open Grammar

section Hexadecimal

/-- What is written for a value below sixteen has that value. -/
theorem hexValue?_hexDigit
    {value : Nat}
    (small : value < 16) :
    Text.hexValue? (Text.hexDigit value) = some value := by
  interval_cases value <;> rfl

/-- What is written for a value below sixteen is a hexadecimal digit. -/
theorem hexDigit_mem
    {value : Nat}
    (small : value < 16) :
    (Text.hexDigit value).isDigit = true ∨
      'a' ≤ Text.hexDigit value ∧ Text.hexDigit value ≤ 'f' := by
  interval_cases value <;> decide

/-- The four hexadecimal digits of a number, one by one. -/
theorem hexDigits_four
    (unit : Nat) :
    Text.hexDigits 4 unit =
      [Text.hexDigit (unit / 16 / 16 / 16 % 16), Text.hexDigit (unit / 16 / 16 % 16),
        Text.hexDigit (unit / 16 % 16), Text.hexDigit (unit % 16)] := by
  simp [Text.hexDigits]

/-- A unit of sixteen bits is read back from its four digits. -/
theorem hexNumber?_hexDigits
    {unit : Nat}
    (small : unit < 0x10000) :
    Text.hexNumber? (Text.hexDigits 4 unit) = some unit := by
  rw [hexDigits_four]
  simp only [Text.hexNumber?, List.mapM_cons, List.mapM_nil,
    hexValue?_hexDigit (Nat.mod_lt _ (by decide : 0 < 16))]
  simp only [Option.bind_eq_bind, Option.pure_def, Option.bind_some, Option.map_some,
    Option.some.injEq, Decimal.valueIn, List.foldl_cons, List.foldl_nil]
  omega

end Hexadecimal

/-- The UTF-16 units of a character. -/
def unitsOf
    (c : Char) :
    List Nat :=
  if c.toNat < 0x10000 then
    [c.toNat]
  else
    [0xD800 + (c.toNat - 0x10000) / 0x400, 0xDC00 + (c.toNat - 0x10000) % 0x400]

/-- A character is neither of the codes that surrogates have. -/
theorem toNat_cases
    (c : Char) :
    c.toNat < 0xD800 ∨ 0xDFFF < c.toNat ∧ c.toNat < 0x110000 :=
  c.valid

/-- The character with the code of a character. -/
theorem charOfCode?_toNat
    (c : Char) :
    Text.charOfCode? c.toNat = some c := by
  have valid : c.toNat.isValidChar := c.valid
  rw [Text.charOfCode?, dif_pos valid]
  rfl

/-- An escaped unit is read back. -/
theorem readUnits?_escapeUnit
    {unit : Nat}
    (small : unit < 0x10000)
    (rest : Text) :
    readUnits? (escapeUnit unit ++ rest) =
      (readUnits? rest).map fun read => (unit :: read.1, read.2) := by
  have digits := hexNumber?_hexDigits small
  rw [hexDigits_four] at digits
  rw [escapeUnit, hexDigits_four]
  simp only [List.cons_append, List.nil_append, readUnits?, digits]
  cases readUnits? rest <;> rfl

/-- A character that needs no escape is read as its code. -/
theorem readUnits?_plain
    {c : Char}
    (printable : ' ' ≤ c)
    (notQuote : c ≠ '"')
    (notBackslash : c ≠ '\\')
    (rest : Text) :
    readUnits? (c :: rest) =
      (readUnits? rest).map fun read => (c.toNat :: read.1, read.2) := by
  have notControl : ¬c.toNat < 0x20 := not_lt.mpr printable
  rw [readUnits?]
  · simp only [notControl, notBackslash, decide_false, Bool.or_false, Bool.false_eq_true,
      ↓reduceIte]
    cases readUnits? rest <;> rfl
  all_goals simp_all

/-- A short escape is read as the code of its character. -/
theorem readUnits?_short
    {letter escaped : Char}
    (isShort : shortEscape? letter = some escaped)
    (rest : Text) :
    readUnits? ('\\' :: letter :: rest) =
      (readUnits? rest).map fun read => (escaped.toNat :: read.1, read.2) := by
  have notUnit : letter ≠ 'u' := by
    rintro rfl
    simp [shortEscape?] at isShort
  rw [readUnits?]
  · simp only [isShort, Option.bind_eq_bind, Option.bind_some]
    cases readUnits? rest <;> rfl
  · rintro _ _ _ _ _ rfl
    exact absurd rfl notUnit

/-- A character of sixteen bits has one unit. -/
theorem unitsOf_small
    {c : Char}
    (small : c.toNat < 0x10000) :
    unitsOf c = [c.toNat] :=
  if_pos small

/-- A character is written by a short escape, as it is, or by its units. -/
theorem printChar_cases
    (c : Char) :
    (∃ letter, printChar c = ['\\', letter] ∧ shortEscape? letter = some c) ∨
      (printChar c = [c] ∧ ' ' ≤ c ∧ c ≤ '~' ∧ c ≠ '"' ∧ c ≠ '\\') ∨
      printChar c = escapeUnits c := by
  rw [printChar]
  split_ifs with special lineFeed return' tab backspace formFeed plain
  · refine .inl ⟨c, rfl, ?_⟩
    simp only [Bool.or_eq_true, decide_eq_true_eq] at special
    rcases special with rfl | rfl <;> rfl
  · exact .inl ⟨'n', rfl, lineFeed ▸ rfl⟩
  · exact .inl ⟨'r', rfl, return' ▸ rfl⟩
  · exact .inl ⟨'t', rfl, tab ▸ rfl⟩
  · exact .inl ⟨'b', rfl, backspace ▸ rfl⟩
  · exact .inl ⟨'f', rfl, formFeed ▸ rfl⟩
  · simp only [Bool.or_eq_true, Bool.and_eq_true, decide_eq_true_eq, not_or] at special plain
    exact .inr (.inl ⟨rfl, plain.1, plain.2, special.1, special.2⟩)
  · exact .inr (.inr rfl)

/-- Only ASCII characters have a short escape. -/
theorem shortEscape?_spec
    {letter escaped : Char}
    (isShort : shortEscape? letter = some escaped) :
    letter ∈ ['"', '\\', '/', 'b', 'f', 'n', 'r', 't'] ∧ escaped.toNat < 128 := by
  unfold shortEscape? at isShort
  split at isShort
  all_goals
    cases isShort
  all_goals
    decide

/-- The notation of a character is read as its units. -/
theorem readUnits?_printChar
    (c : Char)
    (rest : Text) :
    readUnits? (printChar c ++ rest) =
      (readUnits? rest).map fun read => (unitsOf c ++ read.1, read.2) := by
  have codes := toNat_cases c
  obtain ⟨letter, isPrinted, isShort⟩ | ⟨isPrinted, lower, upper, notQuote, notBackslash⟩
    | isPrinted := printChar_cases c
  · have small := (shortEscape?_spec isShort).2
    rw [isPrinted, unitsOf_small (by omega)]
    exact readUnits?_short isShort rest
  · have small : c.toNat < 0x10000 := lt_of_le_of_lt upper (show '~'.toNat < 0x10000 by decide)
    rw [isPrinted, unitsOf_small small]
    exact readUnits?_plain lower notQuote notBackslash rest
  · rw [isPrinted, escapeUnits, unitsOf]
    split_ifs with small
    · exact readUnits?_escapeUnit small rest
    · -- Both halves of the surrogate pair are escaped, one after the other.
      rw [List.append_assoc, readUnits?_escapeUnit (by omega), readUnits?_escapeUnit (by omega),
        Option.map_map]
      rfl

/-- The units of a character are joined to it. -/
theorem joinUnits?_unitsOf
    (c : Char)
    (units : List Nat) :
    joinUnits? (unitsOf c ++ units) = (joinUnits? units).map (c :: ·) := by
  have codes := toNat_cases c
  rw [unitsOf]
  split_ifs with small
  · -- A character of one unit is no surrogate, so the next unit is not taken to it.
    have noHigh : ¬(0xD800 ≤ c.toNat ∧ c.toNat < 0xDC00) := by omega
    cases units with
    | nil =>
        simp only [List.singleton_append, joinUnits?, charOfCode?_toNat]
        rfl
    | cons low rest =>
        rw [List.singleton_append, joinUnits?, if_neg (by simp; omega), charOfCode?_toNat]
        cases joinUnits? (low :: rest) <;> rfl
  · have parts : 0x10000 + (0xD800 + (c.toNat - 0x10000) / 0x400 - 0xD800) * 0x400
        + (0xDC00 + (c.toNat - 0x10000) % 0x400 - 0xDC00) = c.toNat := by
      omega
    rw [List.cons_append, List.singleton_append, joinUnits?, if_pos (by simp; omega), parts,
      charOfCode?_toNat]
    cases joinUnits? units <;> rfl

/-- The notation of a text is read as its units, up to the closing quote. -/
theorem readUnits?_printed
    (text rest : Text) :
    readUnits? (text.flatMap printChar ++ '"' :: rest) = some (text.flatMap unitsOf, rest) := by
  induction text with
  | nil =>
      rfl
  | cons c text inductionHypothesis =>
      rw [List.flatMap_cons, List.append_assoc, readUnits?_printChar, inductionHypothesis,
        List.flatMap_cons]
      rfl

/-- The units of a text are joined to it. -/
theorem joinUnits?_printed
    (text : Text) :
    joinUnits? (text.flatMap unitsOf) = some text := by
  induction text with
  | nil =>
      rfl
  | cons c text inductionHypothesis =>
      rw [List.flatMap_cons, joinUnits?_unitsOf, inductionHypothesis]
      rfl

/-- A text is read back from its notation behind the opening quote. -/
theorem readText?_printed
    (text rest : Text) :
    readText? (text.flatMap printChar ++ '"' :: rest) = some (text, rest) := by
  simp only [readText?, readUnits?_printed, joinUnits?_printed, Option.bind_eq_bind,
    Option.bind_some]

/-- The escape of a unit reads as a unit. -/
theorem isUnit_escapeUnit
    (unit : Nat) :
    IsUnit (escapeUnit unit) := by
  refine .code (by rw [hexDigits_four]; rfl) fun c member => ?_
  rw [hexDigits_four] at member
  have digit : ∃ value < 16, c = Text.hexDigit value := by
    simp only [List.mem_cons, List.not_mem_nil, or_false] at member
    rcases member with rfl | rfl | rfl | rfl <;> exact ⟨_, Nat.mod_lt _ (by decide), rfl⟩
  obtain ⟨value, small, rfl⟩ := digit
  exact (hexDigit_mem small).imp_right .inl

/-- The notation of a character is one unit or two. -/
theorem areUnits_printChar
    (c : Char) :
    AreUnits (printChar c) := by
  obtain ⟨letter, isPrinted, isShort⟩ | ⟨isPrinted, lower, -, notQuote, notBackslash⟩
    | isPrinted := printChar_cases c
  · rw [isPrinted]
    exact IsUnit.areUnits (.short (shortEscape?_spec isShort).1)
  · rw [isPrinted]
    exact IsUnit.areUnits (.plain lower notQuote notBackslash)
  · rw [isPrinted, escapeUnits]
    split_ifs
    · exact IsUnit.areUnits (isUnit_escapeUnit _)
    · exact .cons (isUnit_escapeUnit _) (IsUnit.areUnits (isUnit_escapeUnit _))

/-- The notation of a text is a string. -/
theorem isString_printText
    (text : Text) :
    IsString (printText text) := by
  refine .quoted ?_
  induction text with
  | nil =>
      exact .nil
  | cons c text inductionHypothesis =>
      exact (areUnits_printChar c).append inductionHypothesis

/-- The escape of a unit consists of ASCII characters. -/
theorem escapeUnit_ascii
    {unit : Nat} :
    ∀ part ∈ escapeUnit unit, part.toNat < 128 := by
  have digit {value : Nat} (small : value < 16) : (Text.hexDigit value).toNat < 128 := by
    interval_cases value <;> decide
  intro part member
  rw [escapeUnit, hexDigits_four] at member
  simp only [List.mem_cons, List.not_mem_nil, or_false] at member
  rcases member with rfl | rfl | rfl | rfl | rfl | rfl
  · decide
  · decide
  all_goals exact digit (Nat.mod_lt _ (by decide))

/-- Every character is printed in ASCII characters. -/
theorem printChar_ascii
    {c : Char} :
    ∀ part ∈ printChar c, part.toNat < 128 := by
  obtain ⟨letter, isPrinted, isShort⟩ | ⟨isPrinted, -, upper, -, -⟩ | isPrinted := printChar_cases c
  · have member := (shortEscape?_spec isShort).1
    have small : ∀ letter ∈ ['"', '\\', '/', 'b', 'f', 'n', 'r', 't'], letter.toNat < 128 := by
      simp
    rw [isPrinted]
    simpa using small letter member
  · have small : c.toNat < 128 := lt_of_le_of_lt upper (show '~'.toNat < 128 by decide)
    rw [isPrinted]
    simpa using small
  · rw [isPrinted, escapeUnits]
    split_ifs
    · exact escapeUnit_ascii
    · intro part member
      exact (List.mem_append.mp member).elim (escapeUnit_ascii part) (escapeUnit_ascii part)

/-- Every text is printed in ASCII characters. -/
theorem printText_ascii
    {text : Text} :
    ∀ part ∈ printText text, part.toNat < 128 := by
  intro part member
  simp only [printText, List.cons_append, List.mem_cons, List.mem_append, List.mem_flatMap,
    List.not_mem_nil, or_false] at member
  rcases member with rfl | ⟨c, -, member⟩ | rfl
  · decide
  · exact printChar_ascii part member
  · decide

end LineTally.Json
