import LineTally.Proofs.Settings.Layers
import LineTally.Proofs.Settings.Load
import LineTally.Proofs.Toml.DistinctKeys

namespace LineTally.Settings

/-!
# The settings of a file

The settings that a file gives come from one table of its document.  All keys of the table
are names of settings, each there once, so what is under the name of a setting is its
value, and a setting without a key has its default.
-/

open Value (HasDistinctKeys)

/-- A table with distinct keys which are all names of settings. -/
structure IsSettingsTable
    (entries : List (Text × Value)) :
    Prop where
  keysNodup : (entries.map Prod.fst).Nodup
  keysKnown : ∀ key ∈ entries.map Prod.fst, ∃ setting : Setting, key = setting.name

/-- The unknown keys are those without a setting. -/
theorem mem_unknownKeys
    {keys : List Text}
    {key : Text} :
    key ∈ unknownKeys keys ↔ key ∈ keys ∧ Setting.ofName? key = none := by
  rw [unknownKeys, List.mem_mergeSort, List.mem_eraseDups, List.mem_filter,
    Option.isNone_iff_eq_none]

/-- Only keys that are names of settings are known. -/
theorem known_of_unknownKeys
    {keys : List Text}
    (noUnknown : unknownKeys keys = []) :
    ∀ key ∈ keys, ∃ setting : Setting, key = setting.name := by
  intro key member
  cases found : Setting.ofName? key with
  | none =>
      have unknown := mem_unknownKeys.mpr ⟨member, found⟩
      simp [noUnknown] at unknown
  | some setting =>
      exact ⟨setting, (Setting.name_of_ofName? found).symm⟩

/-- The value of each setting in a table of settings, laid over some settings. -/
theorem get_foldl_entries
    {entries : List (Text × Value)}
    (nodup : (entries.map Prod.fst).Nodup)
    (base : Settings)
    (setting : Setting) :
    (entries.foldl
        (fun settings entry =>
          match Setting.ofName? entry.1 with
          | some setting => settings.set setting (setting.held entry.2)
          | none => settings)
        base).get setting =
      ((entries.lookup setting.name).map setting.held).getD (base.get setting) := by
  induction entries generalizing base with
  | nil =>
      rfl
  | cons entry rest inductionHypothesis =>
      obtain ⟨key, value⟩ := entry
      rw [List.map_cons, List.nodup_cons] at nodup
      rw [List.foldl_cons, inductionHypothesis nodup.2]
      by_cases isName : setting.name = key
      · subst isName
        -- The key does not come again, so nothing takes the place of its value.
        have notAgain : rest.lookup setting.name = none := by
          rw [List.lookup_eq_none_iff]
          intro other member
          have : setting.name ≠ other.1 := fun same =>
            nodup.1 (List.mem_map.mpr ⟨other, member, same.symm⟩)
          simpa using this
        simp [notAgain]
      · have notFound : (setting.name == key) = false := by simpa using isName
        have unchanged : (match Setting.ofName? key with
            | some other => base.set other (other.held value)
            | none => base).get setting = base.get setting := by
          cases found : Setting.ofName? key with
          | none => rfl
          | some other =>
              have otherSetting : other ≠ setting := fun same =>
                isName (same ▸ Setting.name_of_ofName? found)
              simp [otherSetting]
        rw [List.lookup_cons, notFound]
        exact congrArg _ unchanged

/-- The value of each setting in a table of settings. -/
theorem get_ofKnownEntries
    {entries : List (Text × Value)}
    (nodup : (entries.map Prod.fst).Nodup)
    (setting : Setting) :
    (ofKnownEntries entries).get setting =
      ((entries.lookup setting.name).map setting.held).getD (default.get setting) :=
  get_foldl_entries nodup default setting

/-- What is selected from a document with distinct keys has distinct keys. -/
theorem hasDistinctKeys_of_select
    {document : List (Text × Value)}
    {selected : Value}
    (distinct : HasDistinctKeys (.table document))
    (isSelected : select document = .ok selected) :
    HasDistinctKeys selected := by
  obtain ⟨nodup, parts⟩ := Value.hasDistinctKeys_table_iff.mp distinct
  have topLevel : HasDistinctKeys (.table (document.filter fun entry => entry.1 ≠ outerKey)) := by
    refine Value.hasDistinctKeys_table_iff.mpr ⟨?_, fun entry member => ?_⟩
    · exact nodup.sublist (List.filter_sublist.map _)
    · exact parts entry (List.mem_of_mem_filter member)
  rw [select] at isSelected
  split at isSelected
  next =>
    cases isSelected
    exact topLevel
  next tools found =>
    cases isSelected
    obtain ⟨before, after, rfl, -⟩ := List.lookup_eq_some_iff.mp found
    have toolsDistinct := parts (outerKey, .table tools) (by simp)
    cases inner : tools.lookup tableKey with
    | none =>
        exact topLevel
    | some value =>
        obtain ⟨before, after, rfl, -⟩ := List.lookup_eq_some_iff.mp inner
        exact (Value.hasDistinctKeys_table_iff.mp toolsDistinct).2 (tableKey, value) (by simp)
  next =>
    cases isSelected

/-- A document that is read from a file has distinct keys. -/
theorem hasDistinctKeys_of_readDocument
    {disk : Disk}
    {path : Path}
    {document : List (Text × Value)}
    (isRead : readDocument disk path = .ok document) :
    HasDistinctKeys (.table document) := by
  simp only [readDocument, readDocumentBy] at isRead
  split at isRead
  · cases isRead
  · cases isRead
  split at isRead
  · cases isRead
  split at isRead
  next isRead' =>
    cases isRead
    exact Toml.hasDistinctKeys_readWithin isRead'
  all_goals cases isRead

/-- The settings of a file are those of a table of its document. -/
theorem exists_table_of_load
    {disk : Disk}
    {path : Path}
    {settings : Settings}
    (loaded : (load disk path).result = .ok settings) :
    ∃ document entries,
      readDocument disk path = .ok document ∧
        select document = .ok (.table entries) ∧
        IsSettingsTable entries ∧
        ∀ setting, settings.get setting =
          ((entries.lookup setting.name).map setting.held).getD (default.get setting) := by
  cases isRead : readDocument disk path with
  | error fault =>
      rw [load_of_noDocument isRead] at loaded
      cases loaded
  | ok document =>
      rw [load_of_document isRead] at loaded
      cases isSelected : select document with
      | error fault =>
          rw [isSelected] at loaded
          cases loaded
      | ok value =>
          rw [isSelected] at loaded
          have ofSelected : ofValue value = .ok settings := loaded
          have distinct :=
            hasDistinctKeys_of_select (hasDistinctKeys_of_readDocument isRead) isSelected
          unfold ofValue at ofSelected
          split at ofSelected
          next entries =>
            rw [ofTable] at ofSelected
            split at ofSelected
            next noUnknown =>
              cases ofSelected
              have nodup := (Value.hasDistinctKeys_table_iff.mp distinct).1
              exact ⟨document, entries, rfl, isSelected,
                ⟨nodup, known_of_unknownKeys noUnknown⟩, get_ofKnownEntries nodup⟩
            next =>
              cases ofSelected
          next =>
            cases ofSelected

end LineTally.Settings
