import LineTally.Proofs.Run.Journal
import LineTally.Toml.Reader
import Mathlib.Data.List.Nodup
import Mathlib.Tactic.SplitIfs

namespace LineTally

/-!
# Distinct keys

In the tables of a document, however deep, no key is there twice.  A table is built by
putting parts under keys, and what is put takes the place of what was under its key.
-/

namespace Value

/-- The keys of a table. -/
def keys :
    Value → List Text
  | .table entries => entries.map Prod.fst
  | _ => []

/-- The values right inside a value. -/
def inner :
    Value → List Value
  | .list items | .tuple items | .set items => items
  | .table entries => entries.map Prod.snd
  | _ => []

/-- The keys of a table and of each table in a value are distinct. -/
inductive HasDistinctKeys : Value → Prop where
  | intro {value : Value} :
      value.keys.Nodup →
      (∀ part ∈ value.inner, HasDistinctKeys part) →
      HasDistinctKeys value

/-- A table has distinct keys if its own are distinct and the values under them have. -/
theorem hasDistinctKeys_table_iff
    {entries : List (Text × Value)} :
    HasDistinctKeys (.table entries) ↔
      (entries.map Prod.fst).Nodup ∧ ∀ entry ∈ entries, HasDistinctKeys entry.2 := by
  constructor
  · rintro ⟨nodup, parts⟩
    exact ⟨nodup, fun entry member => parts _ (List.mem_map_of_mem member)⟩
  · rintro ⟨nodup, parts⟩
    refine .intro nodup fun part member => ?_
    simp only [inner, List.mem_map] at member
    obtain ⟨entry, member, rfl⟩ := member
    exact parts entry member

/-- A value without values in it has distinct keys. -/
theorem HasDistinctKeys.of_scalar
    {value : Value}
    (noKeys : value.keys = [])
    (noParts : value.inner = []) :
    HasDistinctKeys value :=
  .intro (by rw [noKeys]; exact .nil) (by simp [noParts])

end Value

namespace Toml

open Value (HasDistinctKeys)

namespace Nest

/-- The entries of a table, one by one. -/
theorem toEntries_eq_map
    (entries : Entries) :
    toEntries entries = entries.map fun entry => (entry.1, entry.2.toValue) := by
  induction entries with
  | nil =>
      rw [toEntries]
      rfl
  | cons entry rest inductionHypothesis =>
      obtain ⟨key, nest⟩ := entry
      rw [toEntries, inductionHypothesis]
      rfl

/-- The tables of a list, one by one. -/
theorem toTables_eq_map
    (tables : List Entries) :
    toTables tables = tables.map fun entries => .table (toEntries entries) := by
  induction tables with
  | nil =>
      rw [toTables]
      rfl
  | cons entries rest inductionHypothesis =>
      rw [toTables, inductionHypothesis]
      rfl

/-- The table that some entries are so far has distinct keys. -/
def Entries.AreDistinct
    (entries : Entries) :
    Prop :=
  HasDistinctKeys (.table (toEntries entries))

section Entries

variable
  {entries : Entries}
  {key : Text}
  {nest : Nest}

/-- Entries are distinct if their keys are and what is under them has distinct keys. -/
theorem areDistinct_iff :
    entries.AreDistinct ↔
      (entries.map Prod.fst).Nodup ∧ ∀ entry ∈ entries, HasDistinctKeys entry.2.toValue := by
  rw [Entries.AreDistinct, Value.hasDistinctKeys_table_iff, toEntries_eq_map, List.map_map,
    List.forall_mem_map]
  rfl

/-- A table without entries has no key twice. -/
theorem areDistinct_nil : Entries.AreDistinct [] := by
  simp [areDistinct_iff]

/-- What is under a key of distinct entries has distinct keys. -/
theorem hasDistinctKeys_of_lookup
    (areDistinct : entries.AreDistinct)
    (found : entries.lookup key = some nest) :
    HasDistinctKeys nest.toValue := by
  obtain ⟨before, after, rfl, -⟩ := List.lookup_eq_some_iff.mp found
  exact (areDistinct_iff.mp areDistinct).2 (key, nest) (by simp)

/-- Putting something under a key keeps the keys, or adds the key after them. -/
theorem keys_put :
    (put key nest entries).map Prod.fst =
      if key ∈ entries.map Prod.fst then
        entries.map Prod.fst
      else
        entries.map Prod.fst ++ [key] := by
  induction entries with
  | nil =>
      simp [put]
  | cons entry rest inductionHypothesis =>
      rw [put]
      by_cases same : entry.1 = key
      · simp [same]
      · have other : ¬ key = entry.1 := fun isKey => same isKey.symm
        rw [if_neg same, List.map_cons, inductionHypothesis]
        simp only [List.map_cons, List.mem_cons, other, false_or]
        split_ifs <;> rfl

/-- What is among entries after something has been put under a key. -/
theorem mem_put
    {entry : Text × Nest}
    (member : entry ∈ put key nest entries) :
    entry = (key, nest) ∨ entry ∈ entries := by
  induction entries with
  | nil =>
      simpa [put] using member
  | cons first rest inductionHypothesis =>
      rw [put] at member
      split_ifs at member with same
      · rcases List.mem_cons.mp member with here | there
        · exact .inl here
        · exact .inr (List.mem_cons_of_mem _ there)
      · rcases List.mem_cons.mp member with here | there
        · exact .inr (here ▸ List.mem_cons_self)
        · exact (inductionHypothesis there).imp_right (List.mem_cons_of_mem _)

/-- Distinct entries stay so if something with distinct keys is put under a key. -/
theorem areDistinct_put
    (areDistinct : entries.AreDistinct)
    (hasDistinctKeys : HasDistinctKeys nest.toValue) :
    (put key nest entries).AreDistinct := by
  rw [areDistinct_iff] at areDistinct ⊢
  constructor
  · rw [keys_put]
    split_ifs with present
    · exact areDistinct.1
    · rw [← List.concat_eq_append]
      exact areDistinct.1.concat present
  · intro entry member
    rcases mem_put member with rfl | before
    · exact hasDistinctKeys
    · exact areDistinct.2 entry before

/-- A table has distinct keys exactly if its entries are distinct. -/
theorem hasDistinctKeys_table
    {origin : Origin} :
    HasDistinctKeys (Nest.table origin entries).toValue ↔ entries.AreDistinct := by
  rw [toValue, Entries.AreDistinct]

/-- A list of tables has distinct keys exactly if the entries of each table are distinct. -/
theorem hasDistinctKeys_tables
    {finished : List Entries}
    {last : Entries} :
    HasDistinctKeys (Nest.tables finished last).toValue ↔
      (∀ entries ∈ finished, entries.AreDistinct) ∧ last.AreDistinct := by
  rw [toValue, toTables_eq_map]
  constructor
  · rintro ⟨-, parts⟩
    exact ⟨fun entries member => parts _ (by simpa [Value.inner] using .inl ⟨entries, member, rfl⟩),
      parts _ (by simp [Value.inner])⟩
  · rintro ⟨before, here⟩
    refine .intro (by simp [Value.keys]) fun part member => ?_
    simp only [Value.inner, List.mem_append, List.mem_map, List.mem_singleton] at member
    rcases member with ⟨entries, member, rfl⟩ | rfl
    · exact before entries member
    · exact here

end Entries

/-- A change to entries that keeps them distinct. -/
def KeepsDistinct
    (change : Entries → Option Entries) :
    Prop :=
  ∀ entries changed, entries.AreDistinct → change entries = some changed → changed.AreDistinct

/-- A change further in keeps entries distinct if it does so where it is made. -/
theorem keepsDistinct_within
    {change : Entries → Option Entries}
    (keeps : KeepsDistinct change)
    (keys : List Text) :
    KeepsDistinct (within change keys) := by
  induction keys with
  | nil =>
      exact keeps
  | cons key rest inductionHypothesis =>
      intro entries changed areDistinct made
      rw [within] at made
      split at made
      next =>
        obtain ⟨inner, madeInside, made⟩ := Option.bind_eq_some_iff.mp made
        cases made
        exact areDistinct_put areDistinct
          (hasDistinctKeys_table.mpr (inductionHypothesis _ _ areDistinct_nil madeInside))
      next origin inner found =>
        obtain ⟨inner', madeInside, made⟩ := Option.bind_eq_some_iff.mp made
        cases made
        have before := hasDistinctKeys_table.mp (hasDistinctKeys_of_lookup areDistinct found)
        exact areDistinct_put areDistinct
          (hasDistinctKeys_table.mpr (inductionHypothesis _ _ before madeInside))
      next finished last found =>
        obtain ⟨last', madeInside, made⟩ := Option.bind_eq_some_iff.mp made
        cases made
        have before := hasDistinctKeys_tables.mp (hasDistinctKeys_of_lookup areDistinct found)
        exact areDistinct_put areDistinct
          (hasDistinctKeys_tables.mpr
            ⟨before.1, inductionHypothesis _ _ before.2 madeInside⟩)
      next =>
        cases made

/-- Declaring a table keeps the keys distinct. -/
theorem keepsDistinct_declare
    (key : Text) :
    KeepsDistinct (declare key) := by
  intro entries changed areDistinct made
  rw [declare] at made
  split at made
  next =>
    cases made
    exact areDistinct_put areDistinct (hasDistinctKeys_table.mpr areDistinct_nil)
  next inner found =>
    cases made
    have before := hasDistinctKeys_table.mp (hasDistinctKeys_of_lookup areDistinct found)
    exact areDistinct_put areDistinct (hasDistinctKeys_table.mpr before)
  next =>
    cases made

/-- Appending a table to an array of tables keeps the keys distinct. -/
theorem keepsDistinct_append
    (key : Text) :
    KeepsDistinct (append key) := by
  intro entries changed areDistinct made
  rw [append] at made
  split at made
  next =>
    cases made
    exact areDistinct_put areDistinct (hasDistinctKeys_tables.mpr ⟨by simp, areDistinct_nil⟩)
  next finished last found =>
    cases made
    obtain ⟨before, here⟩ :=
      hasDistinctKeys_tables.mp (hasDistinctKeys_of_lookup areDistinct found)
    refine areDistinct_put areDistinct (hasDistinctKeys_tables.mpr ⟨?_, areDistinct_nil⟩)
    simp only [List.mem_append, List.mem_singleton]
    rintro entries (member | rfl)
    · exact before entries member
    · exact here
  next =>
    cases made

/-- Assigning a value with distinct keys keeps entries distinct. -/
theorem keepsDistinct_assign
    {value : Value}
    (hasDistinctKeys : HasDistinctKeys value)
    (sectionNumber : Nat)
    (keys : List Text) :
    KeepsDistinct (assign sectionNumber value keys) := by
  induction keys with
  | nil =>
      intro entries changed _ made
      cases made
  | cons key rest inductionHypothesis =>
      intro entries changed areDistinct made
      cases rest with
      | nil =>
          rw [assign] at made
          split at made
          next =>
            cases made
            exact areDistinct_put areDistinct (by rwa [toValue])
          next =>
            cases made
      | cons next rest =>
          rw [assign] at made
          · split at made
            next =>
              obtain ⟨inner, madeInside, made⟩ := Option.bind_eq_some_iff.mp made
              cases made
              exact areDistinct_put areDistinct
                (hasDistinctKeys_table.mpr (inductionHypothesis _ _ areDistinct_nil madeInside))
            next origin inner found =>
              split_ifs at made
              obtain ⟨inner', madeInside, made⟩ := Option.bind_eq_some_iff.mp made
              cases made
              have before := hasDistinctKeys_table.mp (hasDistinctKeys_of_lookup areDistinct found)
              exact areDistinct_put areDistinct
                (hasDistinctKeys_table.mpr (inductionHypothesis _ _ before madeInside))
            next =>
              cases made
          · simp

end Nest

/-!
## Values as they are read
-/

/-- What is due is there exactly if the reading succeeds. -/
theorem due_eq_ok_iff
    {α : Type}
    {option : Option α}
    {value : α} :
    due option = .ok value ↔ option = some value := by
  cases option <;> simp [due]

/-- A scalar whose value, if it can be told, has distinct keys. -/
def ScalarIsDistinct
    (scalar : Scalar) :
    Prop :=
  ∀ value, scalar = .ok value → HasDistinctKeys value

/-- A whole number has no keys. -/
theorem scalarIsDistinct_wholeNumber
    (negative : Bool)
    (digits : Text) :
    ScalarIsDistinct (wholeNumber negative digits) := by
  intro value read
  rw [wholeNumber] at read
  split at read
  · cases read
  · cases read
    exact .of_scalar rfl rfl

/-- What is told at once has distinct keys if the value has. -/
theorem scalarIsDistinct_told
    {value : Value}
    (hasDistinctKeys : HasDistinctKeys value) :
    ScalarIsDistinct (.ok value) := by
  rintro _ ⟨⟩
  exact hasDistinctKeys

/-- A decimal that is read has no keys. -/
theorem scalarIsDistinct_of_decimal?
    {text rest : Text}
    {scalar : Scalar}
    (read : decimal? text = some (scalar, rest)) :
    ScalarIsDistinct scalar := by
  unfold decimal? at read
  split at read
  next negative unsigned _ =>
    simp only at read
    split at read
    all_goals
      obtain ⟨⟨whole, rest⟩, _, read⟩ := Option.bind_eq_some_iff.mp read
      simp only at read
      split_ifs at read
    all_goals
      cases read
    · exact scalarIsDistinct_wholeNumber _ _
    · exact scalarIsDistinct_told (.of_scalar rfl rfl)
    · exact scalarIsDistinct_wholeNumber _ _
    · exact scalarIsDistinct_told (.of_scalar rfl rfl)

/-- A number that is read has no keys. -/
theorem scalarIsDistinct_of_number?
    {text rest : Text}
    {scalar : Scalar}
    (read : number? text = some (scalar, rest)) :
    ScalarIsDistinct scalar := by
  have based (base : Nat) (text : Text) {value : Value} {rest : Text}
      (read : based? base text = some (value, rest)) : HasDistinctKeys value := by
    obtain ⟨_, _, read⟩ := Option.bind_eq_some_iff.mp read
    obtain ⟨_, _, read⟩ := Option.bind_eq_some_iff.mp read
    cases read
    exact .of_scalar rfl rfl
  unfold number? at read
  rw [Option.or_eq_some_iff] at read
  rcases read with mapped | ⟨-, decimal⟩
  · obtain ⟨⟨value, rest'⟩, inBase, isTold⟩ := Option.map_eq_some_iff.mp mapped
    clear mapped
    cases isTold
    apply scalarIsDistinct_told
    split at inBase
    · exact based _ _ inBase
    · exact based _ _ inBase
    · exact based _ _ inBase
    · cases inBase
  · exact scalarIsDistinct_of_decimal? decimal

/-- A date or time has no keys. -/
theorem hasDistinctKeys_of_moment?
    {text rest : Text}
    {value : Value}
    (read : moment? text = some (value, rest)) :
    HasDistinctKeys value := by
  obtain ⟨⟨day, rest⟩, _, read⟩ := Option.bind_eq_some_iff.mp read
  simp only at read
  split_ifs at read
  · cases read
  · split at read
    · cases read
      exact .of_scalar rfl rfl
    · split at read
      · cases read
        exact .of_scalar rfl rfl
      · cases read
        exact .of_scalar rfl rfl

/-- A scalar that is read has no keys, of whatever kind it is. -/
theorem scalarIsDistinct_of_scalar?
    {text rest : Text}
    {scalar : Scalar}
    (read : scalar? text = some (scalar, rest)) :
    ScalarIsDistinct scalar := by
  unfold scalar? at read
  split at read
  · cases read
    exact scalarIsDistinct_told (.of_scalar rfl rfl)
  · cases read
    exact scalarIsDistinct_told (.of_scalar rfl rfl)
  · split_ifs at read
    · obtain ⟨⟨value, _⟩, isMoment, isTold⟩ := Option.map_eq_some_iff.mp read
      cases isTold
      exact scalarIsDistinct_told (hasDistinctKeys_of_moment? isMoment)
    · simp only [Option.or_eq_some_iff] at read
      rcases read with time | ⟨-, number | ⟨-, special⟩⟩
      · obtain ⟨_, _, isTold⟩ := Option.map_eq_some_iff.mp time
        cases isTold
        exact scalarIsDistinct_told (.of_scalar rfl rfl)
      · exact scalarIsDistinct_of_number? number
      · obtain ⟨⟨value, _⟩, isSpecial, isTold⟩ := Option.map_eq_some_iff.mp special
        cases isTold
        apply scalarIsDistinct_told
        simp only [special?] at isSpecial
        split at isSpecial
        · cases isSpecial
          exact .of_scalar rfl rfl
        · cases isSpecial
          exact .of_scalar rfl rfl
        · cases isSpecial

/-- A scalar that is read has distinct keys. -/
theorem hasDistinctKeys_of_readScalar
    {text : Text}
    {read : Value × Text}
    (isRead : readScalar text = .ok read) :
    HasDistinctKeys read.1 := by
  rw [readScalar] at isRead
  split_ifs at isRead
  · obtain ⟨_, _, isRead⟩ := Except.bind_eq_ok_iff.mp isRead
    cases isRead
    exact .of_scalar rfl rfl
  · obtain ⟨⟨scalar, _⟩, isScalar, isRead⟩ := Except.bind_eq_ok_iff.mp isRead
    obtain ⟨value, told, isRead⟩ := Except.bind_eq_ok_iff.mp isRead
    cases isRead
    apply scalarIsDistinct_of_scalar? (due_eq_ok_iff.mp isScalar)
    cases scalar with
    | error fault => cases told
    | ok value => cases told; rfl

/-- What is read in some room with some fuel has distinct keys. -/
structure ReadsDistinct
    (room fuel : Nat) :
    Prop where
  values :
    ∀ text read, readValue room fuel text = .ok read → HasDistinctKeys read.1
  items :
    ∀ text read, readItems room fuel text = .ok read → ∀ item ∈ read.1, HasDistinctKeys item
  entries :
    ∀ entries text read,
      Nest.Entries.AreDistinct entries →
      readEntries room fuel entries text = .ok read →
      Nest.Entries.AreDistinct read.1
  entry :
    ∀ text read, readEntry room fuel text = .ok read → HasDistinctKeys read.1.2

namespace ReadsDistinct

variable
  {fuel : Nat}
  (before : ∀ room, ReadsDistinct room fuel)
include before

/-- A value has distinct keys if what is in it has. -/
theorem value_succ
    {room : Nat}
    {text : Text}
    {read : Value × Text}
    (isRead : readValue room (fuel + 1) text = .ok read) :
    HasDistinctKeys read.1 := by
  unfold readValue at isRead
  split at isRead
  · obtain ⟨room, _, isRead⟩ := Except.bind_eq_ok_iff.mp isRead
    obtain ⟨rest, _, isRead⟩ := Except.bind_eq_ok_iff.mp isRead
    obtain ⟨items, areRead, isRead⟩ := Except.bind_eq_ok_iff.mp isRead
    cases isRead
    exact .intro .nil ((before room).items _ _ areRead)
  · split at isRead
    · cases isRead
      exact .of_scalar rfl rfl
    · obtain ⟨room, _, isRead⟩ := Except.bind_eq_ok_iff.mp isRead
      obtain ⟨entries, areRead, isRead⟩ := Except.bind_eq_ok_iff.mp isRead
      cases isRead
      exact (before room).entries _ _ _ Nest.areDistinct_nil areRead
  · exact hasDistinctKeys_of_readScalar isRead

/-- The items of an array have distinct keys if the first and those after it have. -/
theorem items_succ
    {room : Nat}
    {text : Text}
    {read : List Value × Text}
    (isRead : readItems room (fuel + 1) text = .ok read) :
    ∀ item ∈ read.1, HasDistinctKeys item := by
  unfold readItems at isRead
  split at isRead
  · cases isRead
    simp
  · obtain ⟨item, isItem, isRead⟩ := Except.bind_eq_ok_iff.mp isRead
    obtain ⟨rest, _, isRead⟩ := Except.bind_eq_ok_iff.mp isRead
    have first := (before room).values _ _ isItem
    split at isRead
    · cases isRead
      simpa using first
    · obtain ⟨rest, _, isRead⟩ := Except.bind_eq_ok_iff.mp isRead
      obtain ⟨items, areRead, isRead⟩ := Except.bind_eq_ok_iff.mp isRead
      cases isRead
      have others := (before room).items _ _ areRead
      exact List.forall_mem_cons.mpr ⟨first, others⟩
    · cases isRead

/-- The entries of a table keep distinct keys if the first one is assigned to them. -/
theorem entries_succ
    {room : Nat}
    {entries : Nest.Entries}
    {text : Text}
    {read : Nest.Entries × Text}
    (areDistinct : Nest.Entries.AreDistinct entries)
    (isRead : readEntries room (fuel + 1) entries text = .ok read) :
    Nest.Entries.AreDistinct read.1 := by
  rw [readEntries] at isRead
  obtain ⟨⟨⟨key, value⟩, rest⟩, isEntry, isRead⟩ := Except.bind_eq_ok_iff.mp isRead
  obtain ⟨more, isMore, isRead⟩ := Except.bind_eq_ok_iff.mp isRead
  have moreDistinct : Nest.Entries.AreDistinct more :=
    Nest.keepsDistinct_assign ((before room).entry _ _ isEntry) 0 key
      entries more areDistinct (due_eq_ok_iff.mp isMore)
  split at isRead
  · cases isRead
    exact moreDistinct
  · exact (before room).entries _ _ _ moreDistinct isRead
  · cases isRead

/-- An entry has distinct keys if its value has. -/
theorem entry_succ
    {room : Nat}
    {text : Text}
    {read : (List Text × Value) × Text}
    (isRead : readEntry room (fuel + 1) text = .ok read) :
    HasDistinctKeys read.1.2 := by
  rw [readEntry] at isRead
  obtain ⟨_, _, isRead⟩ := Except.bind_eq_ok_iff.mp isRead
  obtain ⟨_, _, isRead⟩ := Except.bind_eq_ok_iff.mp isRead
  obtain ⟨value, isValue, isRead⟩ := Except.bind_eq_ok_iff.mp isRead
  cases isRead
  exact (before room).values _ _ isValue

end ReadsDistinct

/-- All values that are read have distinct keys. -/
theorem readsDistinct
    (room fuel : Nat) :
    ReadsDistinct room fuel := by
  -- On the fuel, for all four readers at once: each calls the others with less of it.
  induction fuel generalizing room with
  | zero =>
      constructor <;> intros <;> simp_all [readValue, readItems, readEntries, readEntry]
  | succ fuel inductionHypothesis =>
      constructor
      case values =>
        intro text read isRead
        exact ReadsDistinct.value_succ inductionHypothesis isRead
      case items =>
        intro text read isRead
        exact ReadsDistinct.items_succ inductionHypothesis isRead
      case entries =>
        intro entries text read areDistinct isRead
        exact ReadsDistinct.entries_succ inductionHypothesis areDistinct isRead
      case entry =>
        intro text read isRead
        exact ReadsDistinct.entry_succ inductionHypothesis isRead

/-!
## Whole documents
-/

/-- A statement whose value, if it has one, has distinct keys. -/
def Statement.IsDistinct :
    Statement → Prop
  | .table _ | .listedTable _ => True
  | .entry _ value => HasDistinctKeys value

/-- A statement that is read has distinct keys. -/
theorem isDistinct_of_readStatement
    {room fuel : Nat}
    {text rest : Text}
    {statement : Statement}
    (isRead : readStatement room fuel text = .ok (statement, rest)) :
    statement.IsDistinct := by
  unfold readStatement at isRead
  split at isRead
  · obtain ⟨_, _, isRead⟩ := Except.bind_eq_ok_iff.mp isRead
    obtain ⟨_, _, isRead⟩ := Except.bind_eq_ok_iff.mp isRead
    obtain ⟨_, _, isRead⟩ := Except.bind_eq_ok_iff.mp isRead
    cases isRead
    trivial
  · obtain ⟨_, _, isRead⟩ := Except.bind_eq_ok_iff.mp isRead
    obtain ⟨_, _, isRead⟩ := Except.bind_eq_ok_iff.mp isRead
    cases isRead
    trivial
  · obtain ⟨_, isEntry, isRead⟩ := Except.bind_eq_ok_iff.mp isRead
    cases isRead
    exact (readsDistinct room fuel).entry _ _ isEntry

/-- The statements of a text have distinct keys. -/
theorem isDistinct_of_mem_readScript
    (room size fuel : Nat)
    (text : Text) :
    ∀ statement ∈ (readScript room size fuel text).statements, statement.IsDistinct := by
  induction fuel generalizing text with
  | zero =>
      rw [readScript]
      simp [Script.broken]
  | succ fuel inductionHypothesis =>
      unfold readScript
      split
      · simp [Script.done]
      · exact inductionHypothesis _
      · split
        · exact inductionHypothesis _
        · simp [Script.broken]
      · split
        · simp [Script.broken]
        next statement rest isStatement =>
          have first := isDistinct_of_readStatement isStatement
          split
          · exact List.forall_mem_cons.mpr ⟨first, inductionHypothesis _⟩
          · exact List.forall_mem_cons.mpr ⟨first, by simp [Script.broken]⟩

/-- A statement with distinct keys keeps the entries of a draft distinct. -/
theorem areDistinct_of_add
    {draft added : Draft}
    {statement : Statement}
    (areDistinct : Nest.Entries.AreDistinct draft.entries)
    (isDistinct : statement.IsDistinct)
    (isAdded : draft.add statement = some added) :
    Nest.Entries.AreDistinct added.entries := by
  have opened {change : Text → Nest.Entries → Option Nest.Entries} {key : List Text}
      (keeps : ∀ last, Nest.KeepsDistinct (change last))
      (isOpened : draft.openSection key change = some added) :
      Nest.Entries.AreDistinct added.entries := by
    obtain ⟨last, _, isOpened⟩ := Option.bind_eq_some_iff.mp isOpened
    obtain ⟨entries, made, isOpened⟩ := Option.bind_eq_some_iff.mp isOpened
    cases isOpened
    exact Nest.keepsDistinct_within (keeps last) _ _ _ areDistinct made
  cases statement with
  | table key =>
      exact opened Nest.keepsDistinct_declare isAdded
  | listedTable key =>
      exact opened Nest.keepsDistinct_append isAdded
  | entry key value =>
      obtain ⟨entries, made, isAdded⟩ := Option.bind_eq_some_iff.mp isAdded
      cases isAdded
      exact Nest.keepsDistinct_within (Nest.keepsDistinct_assign isDistinct _ key) _ _ _
        areDistinct made

/-- Statements with distinct keys keep the entries of a draft distinct. -/
theorem areDistinct_of_foldlM_add
    {statements : List Statement}
    {draft done : Draft}
    (areDistinct : Nest.Entries.AreDistinct draft.entries)
    (isDistinct : ∀ statement ∈ statements, statement.IsDistinct)
    (isDone : statements.foldlM Draft.add draft = some done) :
    Nest.Entries.AreDistinct done.entries := by
  induction statements generalizing draft with
  | nil =>
      cases isDone
      exact areDistinct
  | cons statement rest inductionHypothesis =>
      obtain ⟨added, isAdded, isDone⟩ := Option.bind_eq_some_iff.mp isDone
      obtain ⟨first, others⟩ := List.forall_mem_cons.mp isDistinct
      exact inductionHypothesis (areDistinct_of_add areDistinct first isAdded) others isDone

/-- In a document that is read no table has a key twice. -/
theorem hasDistinctKeys_readWithin
    {room : Nat}
    {text : Text}
    {document : List (Text × Value)}
    (isRead : readWithin room text = .ok document) :
    HasDistinctKeys (.table document) := by
  obtain ⟨draft, isDraft, isRead⟩ := Except.bind_eq_ok_iff.mp isRead
  split at isRead
  · cases isRead
  · cases isRead
    exact areDistinct_of_foldlM_add Nest.areDistinct_nil
      (isDistinct_of_mem_readScript _ _ _ _) (due_eq_ok_iff.mp isDraft)

end Toml

end LineTally
