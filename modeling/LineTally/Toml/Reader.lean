import LineTally.Toml.Nest
import LineTally.Toml.Scalar

namespace LineTally.Toml

/-!
# Reading TOML

A document is read in two steps: its text into statements, each of them on lines
of its own, and the statements into tables.  Where the text cannot be read on, the
statements before that place still count: what is wrong with one of them comes
first.
-/

/-- Why a document could not be read. -/
inductive ReadFault where
  /-- Its text breaks a rule of the format. -/
  | malformed
  /-- One of its numbers cannot be told. -/
  | number (fault : NumberFault)
  /-- Its values lie too deep in one another. -/
  | tooDeep
  deriving Repr, DecidableEq

/--
How much room there is for values within values.  The room is what the stack of calls leaves,
so it depends on where the reading starts and on the limit of the stack.  This is the room
under the usual limit for a program that loads its settings right at its start; that it is
this one is an assumption.
-/
def maxRoom : Nat := 984

/--
A reader of documents, as far as it is not the format that settles what it does: how much
room it has for values within values, and what it says of a text that is no document.
-/
structure Reader where
  room : Nat
  words : Text → Text

/-- The reader of the program.  Its words are not told here; a mark stands for them. -/
def usualReader : Reader := ⟨maxRoom, fun _ => "<TOML>".toList⟩

/-- How much room an array takes: the calls from the array to a value in it. -/
def arrayRoom : Nat := 2

/-- How much room a table within braces takes: the calls from the table to a value in it. -/
def tableRoom : Nat := 3

/-- The room that is left if some is taken. -/
def takeRoom
    (room taken : Nat) :
    Except ReadFault Nat :=
  if room < taken then .error .tooDeep else .ok (room - taken)

/-- A reading that fails if there is nothing of the form that is due. -/
def due
    {α : Type} :
    Option α → Except ReadFault α
  | some value => .ok value
  | none => .error .malformed

/-- Whether a character may stand in a key without quotes. -/
def isBareKeyChar
    (c : Char) :
    Bool :=
  c.isAlphanum || c = '-' || c = '_'

/-- A part of a key between dots. -/
def keyPart?
    (text : Text) :
    Option (Text × Text) :=
  match text with
  | '\'' :: rest => literal? rest
  | '"' :: rest => basic? rest
  | text =>
      let bare := text.takeWhile isBareKeyChar
      if bare.isEmpty then none else some (bare, text.dropWhile isBareKeyChar)

/-- A key with the blanks after it, of as many parts as the fuel allows. -/
def key? :
    Nat → Text → Option (List Text × Text)
  | 0, _ => none
  | fuel + 1, text => do
      let (part, rest) ← keyPart? text
      match skipSpaces rest with
      | '.' :: rest =>
          let (parts, rest) ← key? fuel (skipSpaces rest)
          some (part :: parts, rest)
      | rest => some ([part], rest)

/-- A string, number, date, time or truth value. -/
def readScalar
    (text : Text) :
    Except ReadFault (Value × Text) := do
  if text.head? = some '"' || text.head? = some '\'' then
    let (chars, rest) ← due (string? text)
    return (.string chars, rest)
  else
    let (scalar, rest) ← due (scalar? text)
    let value ← scalar.mapError .number
    return (value, rest)

mutual

/-- A value, with as many items as the fuel allows, in the given room. -/
def readValue
    (room : Nat) :
    Nat → Text → Except ReadFault (Value × Text)
  | 0, _ => .error .malformed
  | fuel + 1, text =>
      match text with
      | '[' :: rest => do
          let room ← takeRoom room arrayRoom
          let rest ← due (skipFiller? false rest)
          let (items, rest) ← readItems room fuel rest
          return (.list items, rest)
      | '\x7b' :: rest =>
          match skipSpaces rest with
          | '\x7d' :: rest => .ok (.table [], rest)
          | rest => do
              let room ← takeRoom room tableRoom
              let (entries, rest) ← readEntries room fuel [] rest
              return (.table (Nest.toEntries entries), rest)
      | text => readScalar text

/-- The items of an array up to its closing bracket; a comma may follow the last one. -/
def readItems
    (room : Nat) :
    Nat → Text → Except ReadFault (List Value × Text)
  | 0, _ => .error .malformed
  | fuel + 1, text =>
      match text with
      | ']' :: rest => .ok ([], rest)
      | text => do
          let (item, rest) ← readValue room fuel text
          let rest ← due (skipFiller? false rest)
          match rest with
          | ']' :: rest => return ([item], rest)
          | ',' :: rest =>
              let rest ← due (skipFiller? false rest)
              let (items, rest) ← readItems room fuel rest
              return (item :: items, rest)
          | _ => .error .malformed

/-- The entries of a table within braces, added to those before them; one is there at least. -/
def readEntries
    (room : Nat) :
    Nat → Nest.Entries → Text → Except ReadFault (Nest.Entries × Text)
  | 0, _, _ => .error .malformed
  | fuel + 1, entries, text => do
      let ((key, value), rest) ← readEntry room fuel text
      let entries ← due (Nest.assign 0 value key entries)
      match skipSpaces rest with
      | '\x7d' :: rest => return (entries, rest)
      | ',' :: rest => readEntries room fuel entries (skipSpaces rest)
      | _ => .error .malformed

/-- A key, an equals sign and a value. -/
def readEntry
    (room : Nat) :
    Nat → Text → Except ReadFault ((List Text × Value) × Text)
  | 0, _ => .error .malformed
  | fuel + 1, text => do
      let (key, rest) ← due (key? fuel text)
      let rest ← due (expect? '=' rest)
      let (value, rest) ← readValue room fuel (skipSpaces rest)
      return ((key, value), rest)

end

/-- A statement of a document. -/
inductive Statement where
  /-- A header that opens a table. -/
  | table (key : List Text)
  /-- A header that opens one more table of a list. -/
  | listedTable (key : List Text)
  | entry (key : List Text) (value : Value)
  deriving Repr

/-- A statement and the rest of its line. -/
def readStatement
    (room fuel : Nat)
    (text : Text) :
    Except ReadFault (Statement × Text) :=
  match text with
  | '[' :: '[' :: rest => do
      let (key, rest) ← due (key? fuel (skipSpaces rest))
      let rest ← due (expect? ']' rest)
      let rest ← due (expect? ']' rest)
      return (.listedTable key, rest)
  | '[' :: rest => do
      let (key, rest) ← due (key? fuel (skipSpaces rest))
      let rest ← due (expect? ']' rest)
      return (.table key, rest)
  | text => do
      let ((key, value), rest) ← readEntry room fuel text
      return (.entry key value, rest)

/-- The statements of a text, up to the place where it cannot be read on. -/
structure Script where
  statements : List Statement
  /-- What is wrong there, unless the whole text is read. -/
  fault : Option ReadFault
  deriving Repr

namespace Script

/-- The script of a text that ends well. -/
def done : Script := ⟨[], none⟩

/-- The script of a text that cannot be read. -/
def broken
    (fault : ReadFault) :
    Script :=
  ⟨[], some fault⟩

/-- A script with a statement before its others. -/
def after
    (statement : Statement)
    (script : Script) :
    Script :=
  { script with statements := statement :: script.statements }

end Script

/-- The lines after a comment and the end of a line, if nothing else is left on the line. -/
def nextLines?
    (rest : Text) :
    Option Text := do
  match ← skipComment? (skipSpaces rest) with
  | [] => some []
  | '\n' :: rest => some rest
  | _ => none

/-- The statements of a text, of as many lines as the fuel allows. -/
def readScript
    (room size : Nat) :
    Nat → Text → Script
  | 0, _ => .broken .malformed
  | fuel + 1, text =>
      match skipSpaces text with
      | [] => .done
      | '\n' :: rest => readScript room size fuel rest
      | '#' :: rest =>
          match nextLines? ('#' :: rest) with
          | some rest => readScript room size fuel rest
          | none => .broken .malformed
      | text =>
          match readStatement room size text with
          | .error fault => .broken fault
          | .ok (statement, rest) =>
              match nextLines? rest with
              | some rest => (readScript room size fuel rest).after statement
              | none => (Script.broken .malformed).after statement

/-- A document under construction: its tables, and the section that is being filled. -/
structure Draft where
  entries : Nest.Entries := []
  header : List Text := []
  sectionNumber : Nat := 0

namespace Draft

/-- A draft with a section opened by a header. -/
def openSection
    (draft : Draft)
    (key : List Text)
    (change : Text → Nest.Entries → Option Nest.Entries) :
    Option Draft := do
  let last ← key.getLast?
  let entries ← Nest.within (change last) key.dropLast draft.entries
  some ⟨entries, key, draft.sectionNumber + 1⟩

/-- A draft with one more statement. -/
def add
    (draft : Draft) :
    Statement → Option Draft
  | .table key => draft.openSection key Nest.declare
  | .listedTable key => draft.openSection key Nest.append
  | .entry key value => do
      let entries ←
        Nest.within (Nest.assign draft.sectionNumber value key) draft.header draft.entries
      some { draft with entries := entries }

end Draft

/-- The table that a document stands for, read in the given room. -/
def readWithin
    (room : Nat)
    (text : Text) :
    Except ReadFault (List (Text × Value)) := do
  let size := 2 * text.length + 4
  let script := readScript room size (text.length + 1) text
  let draft ← due (script.statements.foldlM Draft.add { })
  match script.fault with
  | some fault => .error fault
  | none => return Nest.toEntries draft.entries

end LineTally.Toml
