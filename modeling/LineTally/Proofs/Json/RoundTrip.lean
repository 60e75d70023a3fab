import LineTally.Proofs.Json.Numbers
import LineTally.Proofs.Json.Strings

namespace LineTally.Json

/-!
# Documents read back

The printed text of a value whose doubles are finite is a document of the grammar, is pure
ASCII, and is read back as the value.  Each is shown for values, for the items of an array
and for the entries of an object at once, along the recursion of the printer.
-/

open Grammar

mutual

/-- All doubles in a value are finite. -/
def IsPlain :
    Json → Prop
  | .real value => IsFinite value
  | .array items => ArePlain items
  | .object entries => AreEntriesPlain entries
  | .null | .bool _ | .integer _ | .string _ => True

/-- All doubles in some items are finite. -/
def ArePlain :
    List Json → Prop
  | [] => True
  | item :: items => IsPlain item ∧ ArePlain items

/-- All doubles in some entries are finite. -/
def AreEntriesPlain :
    List (Text × Json) → Prop
  | [] => True
  | (_, value) :: entries => IsPlain value ∧ AreEntriesPlain entries

end

/-!
## The grammar
-/

/-- A space is a blank. -/
theorem areBlanks_space : AreBlanks [' '] := by
  simp [AreBlanks]

/-- A line end with the blanks of its depth consists of blanks. -/
theorem areBlanks_newLine
    (depth : Nat) :
    AreBlanks (newLine depth) := by
  intro c member
  rcases List.mem_cons.mp member with rfl | blank
  · exact .inr (.inl rfl)
  · exact .inl (List.eq_of_mem_replicate blank)

mutual

/-- A printed value is one of the grammar. -/
theorem isValue_print
    (depth : Nat) :
    (json : Json) →
      IsPlain json →
      IsValue (print depth json)
  | .null, _ => by
      rw [print]
      exact .null
  | .bool true, _ => by
      rw [print, if_pos rfl]
      exact .true
  | .bool false, _ => by
      rw [print, if_neg (by decide)]
      exact .false
  | .integer value, _ => by
      rw [print]
      exact .number (isNumber_ofInt value)
  | .real value, isPlain => by
      rw [print]
      rw [IsPlain] at isPlain
      exact .number (isNumber_toText isPlain)
  | .string text, _ => by
      rw [print]
      exact .string (isString_printText text)
  | .array [], _ => by
      rw [print]
      exact .emptyArray areBlanks_nil
  | .array (item :: items), isPlain => by
      rw [IsPlain, ArePlain] at isPlain
      have areItems := areItems_print (depth + 1) items isPlain.2
        (areBlanks_newLine (depth + 1)) (isValue_print (depth + 1) item isPlain.1)
        (areBlanks_newLine depth)
      rw [print]
      simpa using IsValue.array areItems
  | .object [], _ => by
      rw [print]
      exact .emptyObject areBlanks_nil
  | .object ((key, value) :: entries), isPlain => by
      rw [IsPlain, AreEntriesPlain] at isPlain
      have areEntries := areEntries_print (depth + 1) entries isPlain.2 key
        (areBlanks_newLine (depth + 1)) (isValue_print (depth + 1) value isPlain.1)
        (areBlanks_newLine depth)
      rw [print]
      simpa using IsValue.object areEntries

/-- A value and the printed items after it are the items of an array. -/
theorem areItems_print
    (depth : Nat) :
    (items : List Json) →
      ArePlain items →
      ∀ {before value after : Text},
        AreBlanks before →
        IsValue value →
        AreBlanks after →
        AreItems (before ++ value ++ (printItems depth items ++ after))
  | [], _, _, _, _, areBefore, isValue, areAfter => by
      rw [printItems]
      exact .last (.spaced areBefore isValue areAfter)
  | item :: items, arePlain, before, value, after, areBefore, isValue, areAfter => by
      rw [ArePlain] at arePlain
      have areItems := areItems_print depth items arePlain.2
        (areBlanks_newLine depth) (isValue_print depth item arePlain.1) areAfter
      rw [printItems]
      simpa using AreItems.cons (.spaced areBefore isValue areBlanks_nil) areItems

/-- A key with its value and the printed entries after it are the entries of an object. -/
theorem areEntries_print
    (depth : Nat) :
    (entries : List (Text × Json)) →
      AreEntriesPlain entries →
      ∀ (key : Text) {before value after : Text},
        AreBlanks before →
        IsValue value →
        AreBlanks after →
        AreEntries
          (before ++ (printText key ++ ':' :: ' ' :: value)
            ++ (printEntries depth entries ++ after))
  | [], _, key, before, value, after, areBefore, isValue, areAfter => by
      rw [printEntries]
      have isEntry := IsEntry.keyed areBefore (isString_printText key) areBlanks_nil
        (.spaced areBlanks_space isValue areAfter)
      simpa using AreEntries.last isEntry
  | (other, next) :: entries, arePlain, key, before, value, after, areBefore, isValue,
      areAfter => by
      rw [AreEntriesPlain] at arePlain
      have areEntries := areEntries_print depth entries arePlain.2 other
        (areBlanks_newLine depth) (isValue_print depth next arePlain.1) areAfter
      have isEntry := IsEntry.keyed areBefore (isString_printText key) areBlanks_nil
        (.spaced areBlanks_space isValue areBlanks_nil)
      rw [printEntries]
      simpa using AreEntries.cons isEntry areEntries

end

/-!
## Pure ASCII
-/

/-- Only ASCII characters occur in a text. -/
def IsAscii
    (text : Text) :
    Prop :=
  ∀ c ∈ text, c.toNat < 128

instance (text : Text) : Decidable (IsAscii text) :=
  List.decidableBAll (fun c : Char => c.toNat < 128) text

/-- A text is pure ASCII exactly if its first character and the rest are. -/
@[simp]
theorem isAscii_cons
    {c : Char}
    {rest : Text} :
    IsAscii (c :: rest) ↔ c.toNat < 128 ∧ IsAscii rest := by
  simp [IsAscii]

/-- Two texts in a row are ASCII exactly if both are. -/
@[simp]
theorem isAscii_append
    {front back : Text} :
    IsAscii (front ++ back) ↔ IsAscii front ∧ IsAscii back := by
  simp only [IsAscii, List.mem_append, or_imp, forall_and]

/-- The empty text is ASCII. -/
@[simp]
theorem isAscii_nil : IsAscii [] := by
  simp [IsAscii]

/-- A line end with the blanks of its depth is ASCII. -/
@[simp]
theorem isAscii_newLine
    (depth : Nat) :
    IsAscii (newLine depth) := by
  intro c member
  rcases areBlanks_newLine depth c member with rfl | rfl | rfl | rfl <;> decide

mutual

/-- A printed value is pure ASCII. -/
theorem isAscii_print
    (depth : Nat) :
    (json : Json) →
      IsPlain json →
      IsAscii (print depth json)
  | .null, _ => by
      rw [print]
      decide
  | .bool true, _ => by
      rw [print]
      decide
  | .bool false, _ => by
      rw [print]
      decide
  | .integer value, _ => by
      rw [print]
      exact ascii_of_isNumber (isNumber_ofInt value)
  | .real value, isPlain => by
      rw [print]
      rw [IsPlain] at isPlain
      exact ascii_of_isNumber (isNumber_toText isPlain)
  | .string text, _ => by
      rw [print]
      exact printText_ascii
  | .array [], _ => by
      rw [print]
      decide
  | .array (item :: items), isPlain => by
      rw [IsPlain, ArePlain] at isPlain
      have first := isAscii_print (depth + 1) item isPlain.1
      have others := isAscii_printItems (depth + 1) items isPlain.2
      rw [print]
      simp [first, others]
  | .object [], _ => by
      rw [print]
      decide
  | .object ((key, value) :: entries), isPlain => by
      rw [IsPlain, AreEntriesPlain] at isPlain
      have keyAscii : IsAscii (printText key) := printText_ascii
      have first := isAscii_print (depth + 1) value isPlain.1
      have others := isAscii_printEntries (depth + 1) entries isPlain.2
      rw [print]
      simp [keyAscii, first, others]

/-- Printed items are ASCII if their numbers are plain. -/
theorem isAscii_printItems
    (depth : Nat) :
    (items : List Json) →
      ArePlain items →
      IsAscii (printItems depth items)
  | [], _ => by
      rw [printItems]
      exact isAscii_nil
  | item :: items, arePlain => by
      rw [ArePlain] at arePlain
      have first := isAscii_print depth item arePlain.1
      have others := isAscii_printItems depth items arePlain.2
      rw [printItems]
      simp [first, others]

/-- Printed entries are ASCII if their numbers are plain. -/
theorem isAscii_printEntries
    (depth : Nat) :
    (entries : List (Text × Json)) →
      AreEntriesPlain entries →
      IsAscii (printEntries depth entries)
  | [], _ => by
      rw [printEntries]
      exact isAscii_nil
  | (key, value) :: entries, arePlain => by
      rw [AreEntriesPlain] at arePlain
      have keyAscii : IsAscii (printText key) := printText_ascii
      have first := isAscii_print depth value arePlain.1
      have others := isAscii_printEntries depth entries arePlain.2
      rw [printEntries]
      simp [keyAscii, first, others]

end

/-!
## Reading back
-/

/-- The text ends, or goes on as it does behind a value. -/
def EndsValue
    (rest : Text) :
    Prop :=
  ∀ c, rest.head? = some c → c = ',' ∨ c = '\n'

/-- Where a value ends a number does. -/
theorem EndsValue.endsNumber
    {rest : Text}
    (ends : EndsValue rest) :
    EndsNumber rest := by
  intro c isHead
  rcases ends c isHead with rfl | rfl <;> decide

/-- A value ends before a line end. -/
theorem endsValue_newLine
    (depth : Nat)
    (rest : Text) :
    EndsValue (newLine depth ++ rest) := by
  rintro c ⟨⟩
  exact .inr rfl

/-- A value ends before a comma. -/
theorem endsValue_comma
    (rest : Text) :
    EndsValue (',' :: rest) := by
  rintro c ⟨⟩
  exact .inl rfl

/-- A value starts with a character that is no blank and closes nothing. -/
theorem head_of_isValue
    {text : Text}
    (isValue : IsValue text) :
    ∃ c rest, text = c :: rest ∧ c ∉ [' ', '\n', '\r', '\t', ']', '\x7d'] := by
  cases isValue with
  | number isNumber =>
      obtain ⟨c, rest, rfl, isHead⟩ := head_of_isNumber isNumber
      refine ⟨c, rest, rfl, fun member => ?_⟩
      rcases isHead with rfl | isDigit
      · exact absurd member (by decide)
      · have noDigit : ∀ c ∈ [' ', '\n', '\r', '\t', ']', '\x7d'], c.isDigit = false := by
          simp
        rw [noDigit c member] at isDigit
        cases isDigit
  | string isString =>
      cases isString
      exact ⟨_, _, rfl, by decide⟩
  | _ => exact ⟨_, _, rfl, by decide⟩

/-- Blanks are skipped up to the start of a value. -/
theorem skipBlanks_value
    {text : Text}
    (isValue : IsValue text)
    (rest : Text) :
    skipBlanks (text ++ rest) = text ++ rest := by
  obtain ⟨c, others, rfl, noBlank⟩ := head_of_isValue isValue
  simp only [List.mem_cons, not_or] at noBlank
  rw [List.cons_append, skipBlanks, if_neg (by simp [noBlank])]

/-- A line end with the blanks of its depth is skipped. -/
theorem skipBlanks_newLine
    (depth : Nat)
    (text : Text) :
    skipBlanks (newLine depth ++ text) = skipBlanks text := by
  have spaces (count : Nat) :
      skipBlanks (List.replicate count ' ' ++ text) = skipBlanks text := by
    induction count with
    | zero => rfl
    | succ count inductionHypothesis => exact inductionHypothesis
  exact spaces (2 * depth)

/-- A text that starts like a number is read as one. -/
theorem readValue?_number
    {text : Text}
    (isNumber : IsNumber text)
    (fuel : Nat)
    (rest : Text) :
    readValue? (fuel + 1) (text ++ rest) = readNumber? (text ++ rest) := by
  obtain ⟨c, others, rfl, isHead⟩ := head_of_isNumber isNumber
  have noOther : c ∉ ['"', '[', '\x7b', 'n', 't', 'f'] := by
    have : ∀ c ∈ ['"', '[', '\x7b', 'n', 't', 'f'], c ≠ '-' ∧ c.isDigit = false := by
      simp
    intro member
    rcases isHead with isMinus | isDigit
    · exact (this c member).1 isMinus
    · rw [(this c member).2] at isDigit
      cases isDigit
  simp only [List.mem_cons, List.not_mem_nil, or_false, not_or] at noOther
  rw [List.cons_append, readValue?]
  all_goals
    simp_all

/-- A printed text ends with its quotation mark, whatever follows. -/
theorem printText_append
    (text rest : Text) :
    printText text ++ rest = '"' :: (text.flatMap printChar ++ '"' :: rest) := by
  simp [printText]

mutual

/-- A printed value is read back, with as much fuel as it has characters. -/
theorem readValue?_print
    (depth : Nat) :
    (json : Json) →
      IsPlain json →
      ∀ (fuel : Nat) (rest : Text),
        (print depth json).length ≤ fuel →
        EndsValue rest →
        readValue? fuel (print depth json ++ rest) = some (json, rest)
  | json, isPlain, 0, rest, enough, ends => by
      obtain ⟨c, others, isText, -⟩ := head_of_isValue (isValue_print depth json isPlain)
      rw [isText] at enough
      exact absurd enough (by simp)
  | .null, _, fuel + 1, rest, enough, ends => by
      rw [print]
      simp [readValue?]
  | .bool true, _, fuel + 1, rest, enough, ends => by
      rw [print]
      simp [readValue?]
  | .bool false, _, fuel + 1, rest, enough, ends => by
      rw [print]
      simp [readValue?]
  | .integer value, _, fuel + 1, rest, enough, ends => by
      rw [print, readValue?_number (isNumber_ofInt value), readNumber?_ofInt value ends.endsNumber]
  | .real value, isPlain, fuel + 1, rest, enough, ends => by
      rw [IsPlain] at isPlain
      rw [print, readValue?_number (isNumber_toText isPlain),
        readNumber?_toText isPlain ends.endsNumber]
  | .string text, _, fuel + 1, rest, enough, ends => by
      rw [print, printText]
      simp [readValue?, readText?_printed]
  | .array [], _, fuel + 1, rest, enough, ends => by
      rw [print]
      simp [readValue?, skipBlanks]
  | .array (item :: items), isPlain, fuel + 1, rest, enough, ends => by
      rw [IsPlain, ArePlain] at isPlain
      rw [print] at enough ⊢
      have isValue := isValue_print (depth + 1) item isPlain.1
      have read := readItems?_print (depth + 1) items isPlain.2 fuel depth rest
        (readValue?_print (depth + 1) item isPlain.1)
        (by simp at enough; omega)
      obtain ⟨c, others, isText, noBlank⟩ := head_of_isValue isValue
      have skipped := skipBlanks_value isValue
        (printItems (depth + 1) items ++ (newLine depth ++ ']' :: rest))
      simp only [List.cons_append, List.append_assoc, List.nil_append]
      simp only [readValue?, skipBlanks_newLine, skipped]
      -- No value starts with a bracket that closes, so the array is not taken for an empty one.
      split
      next closes =>
        rw [isText] at closes
        exact absurd (List.cons.inj closes).1 (fun isBracket => noBlank (by simp [isBracket]))
      next =>
        rw [read]
        rfl
  | .object [], _, fuel + 1, rest, enough, ends => by
      rw [print]
      simp [readValue?, skipBlanks]
  | .object ((key, value) :: entries), isPlain, fuel + 1, rest, enough, ends => by
      rw [IsPlain, AreEntriesPlain] at isPlain
      rw [print] at enough ⊢
      have read := readEntries?_print (depth + 1) entries isPlain.2 fuel depth rest key
        (isValue_print (depth + 1) value isPlain.1)
        (readValue?_print (depth + 1) value isPlain.1)
        (by simp at enough; omega)
      simp only [List.cons_append, List.append_assoc, List.nil_append]
      simp only [readValue?, skipBlanks_newLine]
      rw [printText_append] at read ⊢
      simp [skipBlanks, read]

/-- A value and the printed items after it are read back up to the closing bracket. -/
theorem readItems?_print
    (depth : Nat) :
    (items : List Json) →
      ArePlain items →
      ∀ (fuel outer : Nat) (rest : Text) {first : Json} {text : Text},
        (∀ (fuel : Nat) (rest : Text),
          text.length ≤ fuel →
          EndsValue rest →
          readValue? fuel (text ++ rest) = some (first, rest)) →
        text.length + (printItems depth items).length < fuel →
        readItems? fuel (text ++ (printItems depth items ++ (newLine outer ++ ']' :: rest))) =
          some (first :: items, rest)
  | items, arePlain, 0, outer, rest, first, text, isRead, enough => by
      exact absurd enough (by omega)
  | [], _, fuel + 1, outer, rest, first, text, isRead, enough => by
      rw [printItems, List.nil_append, readItems?,
        isRead fuel _ (by omega) (endsValue_newLine outer _)]
      simp [skipBlanks_newLine, skipBlanks]
  | item :: items, arePlain, fuel + 1, outer, rest, first, text, isRead, enough => by
      rw [ArePlain] at arePlain
      rw [printItems] at enough ⊢
      have readRest := readItems?_print depth items arePlain.2 fuel outer rest
        (readValue?_print depth item arePlain.1)
        (by simp at enough; omega)
      have skipped := skipBlanks_value (isValue_print depth item arePlain.1)
        (printItems depth items ++ (newLine outer ++ ']' :: rest))
      simp only [List.cons_append, List.append_assoc]
      rw [readItems?, isRead fuel _ (by omega) (endsValue_comma _)]
      simp [skipBlanks, skipBlanks_newLine, skipped, readRest]

/-- A key with its value and the printed entries after it are read back up to the closing brace. -/
theorem readEntries?_print
    (depth : Nat) :
    (entries : List (Text × Json)) →
      AreEntriesPlain entries →
      ∀ (fuel outer : Nat) (rest key : Text) {first : Json} {text : Text},
        IsValue text →
        (∀ (fuel : Nat) (rest : Text),
          text.length ≤ fuel →
          EndsValue rest →
          readValue? fuel (text ++ rest) = some (first, rest)) →
        text.length + (printEntries depth entries).length < fuel →
        readEntries? fuel
            (printText key ++ ':' :: ' ' ::
              (text ++ (printEntries depth entries ++ (newLine outer ++ '\x7d' :: rest)))) =
          some ((key, first) :: entries, rest)
  | entries, arePlain, 0, outer, rest, key, first, text, isValue, isRead, enough => by
      exact absurd enough (by omega)
  | [], _, fuel + 1, outer, rest, key, first, text, isValue, isRead, enough => by
      have skipped := skipBlanks_value isValue (newLine outer ++ '\x7d' :: rest)
      have readFirst := isRead fuel _ (by omega)
        (endsValue_newLine outer ('\x7d' :: rest))
      rw [printEntries, List.nil_append, printText_append]
      simp [readEntries?, readText?_printed, skipBlanks, skipped, readFirst, skipBlanks_newLine]
  | (other, next) :: entries, arePlain, fuel + 1, outer, rest, key, first, text, isValue, isRead,
      enough => by
      rw [AreEntriesPlain] at arePlain
      rw [printEntries] at enough ⊢
      have readRest := readEntries?_print depth entries arePlain.2 fuel outer rest other
        (isValue_print depth next arePlain.1)
        (readValue?_print depth next arePlain.1)
        (by simp at enough; omega)
      rw [printText_append] at readRest
      simp only [List.cons_append, List.append_assoc, printText_append]
      generalize isMore : '"' :: (other.flatMap printChar ++ '"' :: ':' :: ' ' :: (print depth next
        ++ (printEntries depth entries ++ (newLine outer ++ '\x7d' :: rest)))) = more at *
      have skipped := skipBlanks_value isValue (',' :: (newLine depth ++ more))
      have readFirst := isRead fuel _ (by omega)
        (endsValue_comma (newLine depth ++ more))
      have skippedKey : skipBlanks more = more := by
        rw [← isMore]
        rfl
      simp [readEntries?, readText?_printed, skipBlanks, skipped, readFirst, skipBlanks_newLine,
        skippedKey, readRest]

end

/-- The text of a value whose doubles are finite is a document, in pure ASCII, of that value. -/
theorem toText_spec
    {json : Json}
    (isPlain : IsPlain json) :
    IsAscii json.toText ∧ IsDocument json.toText ∧ ofText? json.toText = some json := by
  have isValue := isValue_print 0 json isPlain
  refine ⟨isAscii_print 0 json isPlain, isValue.isItem, ?_⟩
  have skipped := skipBlanks_value isValue []
  have read := readValue?_print 0 json isPlain (2 * json.toText.length + 2) []
    (by rw [toText]; omega) (by rintro c ⟨⟩)
  rw [List.append_nil] at skipped read
  rw [ofText?, toText, skipped]
  rw [toText] at read
  rw [read]
  rfl

end LineTally.Json
