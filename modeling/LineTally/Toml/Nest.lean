import LineTally.Value.Basic

namespace LineTally.Toml

/-!
# Nested tables under construction

A document builds its tables bit by bit.  What may still be added to a table
depends on how it came about, so each table remembers that until the document is
complete.  A value, also one that is an array or a table, is never added to.
-/

/-- How a table came about. -/
inductive Origin where
  /-- On the way to a table further in. -/
  | implied
  /-- By a header of its own. -/
  | declared
  /-- By a key with dots, in the section with the given number. -/
  | dotted (sectionNumber : Nat)
  deriving Repr, DecidableEq

/-- A part of a document under construction. -/
inductive Nest where
  | leaf (value : Value)
  | table (origin : Origin) (entries : List (Text × Nest))
  /-- A list of tables: the finished ones, and the one that is being built. -/
  | tables (finished : List (List (Text × Nest))) (last : List (Text × Nest))
  deriving Repr

namespace Nest

/-- The entries of a table under construction. -/
abbrev Entries := List (Text × Nest)

/-- The entries with one put under a key, in the place of an earlier one. -/
def put
    (key : Text)
    (nest : Nest) :
    Entries → Entries
  | [] => [(key, nest)]
  | entry :: rest =>
      if entry.1 = key then
        (key, nest) :: rest
      else
        entry :: put key nest rest

/-- A change to the table at the end of some keys; tables on the way are made if missing. -/
def within
    (change : Entries → Option Entries) :
    List Text → Entries → Option Entries
  | [], entries => change entries
  | key :: rest, entries =>
      match entries.lookup key with
      | none => do
          let inner ← within change rest []
          some (put key (.table .implied inner) entries)
      | some (.table origin inner) => do
          let inner ← within change rest inner
          some (put key (.table origin inner) entries)
      | some (.tables finished last) => do
          let last ← within change rest last
          some (put key (.tables finished last) entries)
      | some (.leaf _) => none

/-- A table declared by a header; a table is declared once, and only if nothing else made it. -/
def declare
    (key : Text)
    (entries : Entries) :
    Option Entries :=
  match entries.lookup key with
  | none => some (put key (.table .declared []) entries)
  | some (.table .implied inner) => some (put key (.table .declared inner) entries)
  | some _ => none

/-- One more table in a list of tables. -/
def append
    (key : Text)
    (entries : Entries) :
    Option Entries :=
  match entries.lookup key with
  | none => some (put key (.tables [] []) entries)
  | some (.tables finished last) =>
      some (put key (.tables (finished ++ [last]) []) entries)
  | some _ => none

/-- Whether a key with dots may lead into a table of this origin from a section. -/
def Origin.isOpenTo
    (sectionNumber : Nat) :
    Origin → Bool
  | .implied => true
  | .declared => false
  | .dotted number => number = sectionNumber

/-- A value put at the end of a key with dots, where nothing is yet. -/
def assign
    (sectionNumber : Nat)
    (value : Value) :
    List Text → Entries → Option Entries
  | [], _ => none
  | [key], entries =>
      match entries.lookup key with
      | none => some (put key (.leaf value) entries)
      | some _ => none
  | key :: rest, entries =>
      match entries.lookup key with
      | none => do
          let inner ← assign sectionNumber value rest []
          some (put key (.table (.dotted sectionNumber) inner) entries)
      | some (.table origin inner) =>
          if Origin.isOpenTo sectionNumber origin then do
            let inner ← assign sectionNumber value rest inner
            some (put key (.table (.dotted sectionNumber) inner) entries)
          else
            none
      | some _ => none

mutual

/-- A part of a complete document as a value. -/
def toValue :
    Nest → Value
  | .leaf value => value
  | .table _ entries => .table (toEntries entries)
  | .tables finished last => .list (toTables finished ++ [.table (toEntries last)])

/-- The entries of a complete table. -/
def toEntries :
    List (Text × Nest) → List (Text × Value)
  | [] => []
  | (key, nest) :: rest => (key, nest.toValue) :: toEntries rest

/-- The tables of a complete list. -/
def toTables :
    List (List (Text × Nest)) → List Value
  | [] => []
  | entries :: rest => .table (toEntries entries) :: toTables rest

end

end Nest

end LineTally.Toml
