import LineTally.Text.Hexadecimal

namespace LineTally.Toml

/-!
# Strings, comments and blanks of TOML

Each reader takes the text that follows an opening mark and returns what it read
and the text that remains, or fails.  Control characters other than the tab are
refused everywhere, except that a string over several lines may hold line feeds.
-/

/-- Whether a character may not stand in a comment or a string of one line. -/
def isControl
    (c : Char) :
    Bool :=
  (c.toNat < 0x20 && c ≠ '\t') || c.toNat = 0x7F

/-- Whether a character separates the parts of a line. -/
def isSpace
    (c : Char) :
    Bool :=
  c = ' ' || c = '\t'

/-- The text without the spaces and tabs that it starts with. -/
def skipSpaces
    (text : Text) :
    Text :=
  text.dropWhile isSpace

/-- The text after a comment, if one comes next, from the end of its line on. -/
def skipComment?
    (text : Text) :
    Option Text :=
  match text with
  | '#' :: rest =>
      if (rest.takeWhile (· ≠ '\n')).any isControl then
        none
      else
        some (rest.dropWhile (· ≠ '\n'))
  | text => some text

/-- The text after any blanks, line feeds and comments, as they stand between array items. -/
def skipFiller?
    (inComment : Bool) :
    Text → Option Text
  | [] => some []
  | c :: rest =>
      if c = '\n' then
        skipFiller? false rest
      else if inComment then
        if isControl c then none else skipFiller? true rest
      else if isSpace c then
        skipFiller? false rest
      else if c = '#' then
        skipFiller? true rest
      else
        some (c :: rest)

/-- A string that stands for itself, up to its closing apostrophe. -/
def literal? :
    Text → Option (Text × Text)
  | [] => none
  | c :: rest =>
      if c = '\'' then
        some ([], rest)
      else if isControl c then
        none
      else
        (literal? rest).map fun read => (c :: read.1, read.2)

/-- A string over several lines that stands for itself, up to three apostrophes. -/
def longLiteral? :
    Text → Option (Text × Text)
  | [] => none
  | '\'' :: '\'' :: '\'' :: rest => some ([], rest)
  | c :: rest =>
      if isControl c && c ≠ '\n' then
        none
      else
        (longLiteral? rest).map fun read => (c :: read.1, read.2)

/-- The character that a backslash and one more character stand for. -/
def escape? :
    Char → Option Char
  | 'b' => some '\x08'
  | 't' => some '\t'
  | 'n' => some '\n'
  | 'f' => some '\x0c'
  | 'r' => some '\r'
  | '"' => some '"'
  | '\\' => some '\\'
  | _ => none

/-- The character whose code point is given by hexadecimal digits. -/
def hexChar?
    (digits : List Char) :
    Option Char := do
  let code ← Text.hexNumber? digits
  Text.charOfCode? code

/-- A string with escapes, up to its closing quote. -/
def basic? :
    Text → Option (Text × Text)
  | [] => none
  | '"' :: rest => some ([], rest)
  | '\\' :: 'u' :: a :: b :: c :: d :: rest => do
      let escaped ← hexChar? [a, b, c, d]
      let read ← basic? rest
      some (escaped :: read.1, read.2)
  | '\\' :: 'U' :: a :: b :: c :: d :: e :: f :: g :: h :: rest => do
      let escaped ← hexChar? [a, b, c, d, e, f, g, h]
      let read ← basic? rest
      some (escaped :: read.1, read.2)
  | '\\' :: c :: rest => do
      let escaped ← escape? c
      let read ← basic? rest
      some (escaped :: read.1, read.2)
  | c :: rest =>
      if isControl c || c = '\\' then
        none
      else
        (basic? rest).map fun read => (c :: read.1, read.2)

/-- Where the reader of a string over several lines stands. -/
inductive LongState where
  /-- In the text of the string. -/
  | inText
  /-- After a backslash and spaces, which only the end of the line may follow. -/
  | beforeLineEnd
  /-- After a line end that a backslash has cancelled, with the blanks that follow it. -/
  | inMargin
  deriving Repr, DecidableEq

/-- A string over several lines with escapes, up to three quotes. -/
def longBasic?
    (state : LongState) :
    Text → Option (Text × Text)
  | [] => none
  | '"' :: '"' :: '"' :: rest => if state = .beforeLineEnd then none else some ([], rest)
  | '\\' :: 'u' :: a :: b :: c :: d :: rest =>
      if state = .beforeLineEnd then
        none
      else do
        let escaped ← hexChar? [a, b, c, d]
        let read ← longBasic? .inText rest
        some (escaped :: read.1, read.2)
  | '\\' :: 'U' :: a :: b :: c :: d :: e :: f :: g :: h :: rest =>
      if state = .beforeLineEnd then
        none
      else do
        let escaped ← hexChar? [a, b, c, d, e, f, g, h]
        let read ← longBasic? .inText rest
        some (escaped :: read.1, read.2)
  | '\\' :: c :: rest =>
      if state = .beforeLineEnd then
        none
      else if c = '\n' then
        longBasic? .inMargin rest
      else if isSpace c then
        longBasic? .beforeLineEnd rest
      else do
        let escaped ← escape? c
        let read ← longBasic? .inText rest
        some (escaped :: read.1, read.2)
  | c :: rest =>
      if state = .inMargin && (isSpace c || c = '\n') then
        longBasic? .inMargin rest
      else if state = .beforeLineEnd then
        if c = '\n' then
          longBasic? .inMargin rest
        else if isSpace c then
          longBasic? .beforeLineEnd rest
        else
          none
      else if (isControl c && c ≠ '\n') || c = '\\' then
        none
      else
        (longBasic? .inText rest).map fun read => (c :: read.1, read.2)

/-- The text without the line feed that it starts with, if it does. -/
def skipLineFeed :
    Text → Text
  | '\n' :: rest => rest
  | text => text

/-- A string with up to two more quotes that stand right after its closing ones. -/
def withExtraQuotes
    (quote : Char)
    (read : Text × Text) :
    Text × Text :=
  match read.2 with
  | first :: second :: rest =>
      if first = quote then
        if second = quote then
          (read.1 ++ [quote, quote], rest)
        else
          (read.1 ++ [quote], second :: rest)
      else
        read
  | [first] => if first = quote then (read.1 ++ [quote], []) else read
  | [] => read

/-- A string of any of the four forms, if one comes next. -/
def string? :
    Text → Option (Text × Text)
  | '"' :: '"' :: '"' :: rest =>
      (longBasic? .inText (skipLineFeed rest)).map (withExtraQuotes '"')
  | '"' :: rest => basic? rest
  | '\'' :: '\'' :: '\'' :: rest =>
      (longLiteral? (skipLineFeed rest)).map (withExtraQuotes '\'')
  | '\'' :: rest => literal? rest
  | _ => none

end LineTally.Toml
