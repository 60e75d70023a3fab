import LineTally.Text.Basic

namespace LineTally.Json.Grammar

/-!
# The grammar of JSON documents

Which texts are JSON documents, with one constructor for each alternative of the grammar.
Nothing here depends on how documents are printed or read.
-/

/-- Blanks that may stand between the parts of a document. -/
def AreBlanks
    (text : Text) :
    Prop :=
  ∀ c ∈ text, c = ' ' ∨ c = '\n' ∨ c = '\r' ∨ c = '\t'

/-- One digit at least, and nothing but digits. -/
def AreDigits
    (text : Text) :
    Prop :=
  text ≠ [] ∧ ∀ c ∈ text, c.isDigit = true

/-- The part of a number before the point: zero, or digits without a leading zero. -/
inductive IsWhole : Text → Prop where
  | zero : IsWhole ['0']
  | digits {digits : Text} : AreDigits digits → digits.head? ≠ some '0' → IsWhole digits

/-- The part of a number from the point on, if there is one. -/
inductive IsFraction : Text → Prop where
  | absent : IsFraction []
  | point {digits : Text} : AreDigits digits → IsFraction ('.' :: digits)

/-- The power of ten of a number, if there is one. -/
inductive IsExponent : Text → Prop where
  | absent : IsExponent []
  | unsigned {letter : Char} {digits : Text} :
      letter = 'e' ∨ letter = 'E' → AreDigits digits → IsExponent (letter :: digits)
  | signed {letter sign : Char} {digits : Text} :
      letter = 'e' ∨ letter = 'E' →
      sign = '+' ∨ sign = '-' →
      AreDigits digits →
      IsExponent (letter :: sign :: digits)

/-- A number. -/
inductive IsNumber : Text → Prop where
  | unsigned {whole fraction exponent : Text} :
      IsWhole whole →
      IsFraction fraction →
      IsExponent exponent →
      IsNumber (whole ++ (fraction ++ exponent))
  | negative {whole fraction exponent : Text} :
      IsWhole whole →
      IsFraction fraction →
      IsExponent exponent →
      IsNumber ('-' :: (whole ++ (fraction ++ exponent)))

/-- The notation of one character or one UTF-16 unit inside a string. -/
inductive IsUnit : Text → Prop where
  | plain {c : Char} : 0x20 ≤ c.toNat → c ≠ '"' → c ≠ '\\' → IsUnit [c]
  | short {c : Char} : c ∈ ['"', '\\', '/', 'b', 'f', 'n', 'r', 't'] → IsUnit ['\\', c]
  | code {digits : Text} :
      digits.length = 4 →
      (∀ c ∈ digits, c.isDigit = true ∨ 'a' ≤ c ∧ c ≤ 'f' ∨ 'A' ≤ c ∧ c ≤ 'F') →
      IsUnit ('\\' :: 'u' :: digits)

/-- The inside of a string. -/
inductive AreUnits : Text → Prop where
  | nil : AreUnits []
  | cons {unit rest : Text} : IsUnit unit → AreUnits rest → AreUnits (unit ++ rest)

/-- A string. -/
inductive IsString : Text → Prop where
  | quoted {units : Text} : AreUnits units → IsString ('"' :: units ++ ['"'])

mutual

/-- A value. -/
inductive IsValue : Text → Prop where
  | null : IsValue "null".toList
  | true : IsValue "true".toList
  | false : IsValue "false".toList
  | number {text : Text} : IsNumber text → IsValue text
  | string {text : Text} : IsString text → IsValue text
  | emptyArray {blanks : Text} : AreBlanks blanks → IsValue ('[' :: blanks ++ [']'])
  | array {items : Text} : AreItems items → IsValue ('[' :: items ++ [']'])
  | emptyObject {blanks : Text} : AreBlanks blanks → IsValue ('\x7b' :: blanks ++ ['\x7d'])
  | object {entries : Text} : AreEntries entries → IsValue ('\x7b' :: entries ++ ['\x7d'])

/-- A value with blanks around it. -/
inductive IsItem : Text → Prop where
  | spaced {before value after : Text} :
      AreBlanks before → IsValue value → AreBlanks after → IsItem (before ++ value ++ after)

/-- The items of an array. -/
inductive AreItems : Text → Prop where
  | last {item : Text} : IsItem item → AreItems item
  | cons {item rest : Text} : IsItem item → AreItems rest → AreItems (item ++ ',' :: rest)

/-- A key and its value. -/
inductive IsEntry : Text → Prop where
  | keyed {before key between item : Text} :
      AreBlanks before →
      IsString key →
      AreBlanks between →
      IsItem item →
      IsEntry (before ++ key ++ between ++ ':' :: item)

/-- The entries of an object. -/
inductive AreEntries : Text → Prop where
  | last {entry : Text} : IsEntry entry → AreEntries entry
  | cons {entry rest : Text} : IsEntry entry → AreEntries rest → AreEntries (entry ++ ',' :: rest)

end

/-- A document is a value with blanks around it. -/
abbrev IsDocument
    (text : Text) :
    Prop :=
  IsItem text

/-- The empty text consists of blanks. -/
theorem areBlanks_nil : AreBlanks [] := by
  simp [AreBlanks]

/-- One unit is the inside of a string. -/
theorem IsUnit.areUnits
    {unit : Text}
    (isUnit : IsUnit unit) :
    AreUnits unit := by
  simpa using AreUnits.cons isUnit .nil

/-- The insides of two strings make one. -/
theorem AreUnits.append
    {first second : Text}
    (areUnits : AreUnits first)
    (areAlsoUnits : AreUnits second) :
    AreUnits (first ++ second) := by
  induction areUnits with
  | nil =>
      exact areAlsoUnits
  | cons isUnit _ inductionHypothesis =>
      rw [List.append_assoc]
      exact .cons isUnit inductionHypothesis

/-- A value without blanks around it. -/
theorem IsValue.isItem
    {value : Text}
    (isValue : IsValue value) :
    IsItem value := by
  simpa using IsItem.spaced areBlanks_nil isValue areBlanks_nil

end LineTally.Json.Grammar
