import LineTally.Proofs.Settings.Source
import LineTally.Proofs.Text.Names

namespace LineTally

/-!
# The table of settings

Of a document only the table of settings counts: `tool.linecount` if it is there, and the
top level without `tool` if it is not.  Two files with the same table give the same, whatever
else is in them and in whatever order its keys are.  Settings that are written as a table
come back from it.
-/

namespace Setting

/-- A setting is known by its name. -/
theorem name_injective :
    Function.Injective name := by
  intro setting other sameName
  have found := ofName?_name setting
  rw [sameName, ofName?_name] at found
  exact (Option.some.inj found).symm

/-- No setting is found by a name exactly if none has it. -/
theorem ofName?_eq_none_iff
    {key : Text} :
    ofName? key = none ↔ ∀ setting : Setting, key ≠ setting.name := by
  constructor
  · rintro notFound setting rfl
    simp at notFound
  · intro noName
    cases found : ofName? key with
    | none => rfl
    | some setting => exact (noName setting (name_of_ofName? found).symm).elim

end Setting

/-- A value as it is written in a document, where a tuple is an array. -/
def Value.asArray :
    Value → Value
  | .tuple items => .list items
  | value => value

namespace Settings

/-! ## What is selected -/

section Selecting

variable
  {document : List (Text × Value)}

/-- A document in which `tool`, if it is there, is a table. -/
def PlacesTable
    (document : List (Text × Value)) :
    Prop :=
  ∀ outer, document.lookup outerKey = some outer → ∃ tools, outer = .table tools

/-- What is under `tool.linecount` in a document. -/
def ownTable?
    (document : List (Text × Value)) :
    Option Value :=
  match document.lookup outerKey with
  | some (.table tools) => tools.lookup tableKey
  | _ => none

/-- The top level of a document without `tool`. -/
def topLevel
    (document : List (Text × Value)) :
    List (Text × Value) :=
  document.filter fun entry => entry.1 ≠ outerKey

/-- What is under `tool.linecount` is selected, and the top level if nothing is there. -/
theorem select_of_placesTable
    (placed : PlacesTable document) :
    select document = .ok ((ownTable? document).getD (.table (topLevel document))) := by
  cases isOuter : document.lookup outerKey with
  | none =>
      simp only [select, ownTable?, topLevel, isOuter, Option.getD_none]
  | some outer =>
      obtain ⟨tools, rfl⟩ := placed outer isOuter
      simp only [select, ownTable?, topLevel, isOuter]

end Selecting

/-! ## Tables with the same entries -/

section Rearranging

variable
  {keys : List Text}
  {entries others : List (Text × Value)}

/-- Unknown keys ascend. -/
theorem pairwise_unknownKeys
    (keys : List Text) :
    (unknownKeys keys).Pairwise (· < ·) :=
  Text.pairwise_mergeSort_precedes (Text.nodup_eraseDups _)

/-- There are no unknown keys exactly if each key is the name of a setting. -/
theorem unknownKeys_eq_nil_iff :
    unknownKeys keys = [] ↔ ∀ key ∈ keys, ∃ setting : Setting, key = setting.name := by
  constructor
  · exact known_of_unknownKeys
  · intro known
    rw [List.eq_nil_iff_forall_not_mem]
    intro key unknown
    obtain ⟨member, notFound⟩ := mem_unknownKeys.mp unknown
    obtain ⟨setting, isName⟩ := known key member
    exact Setting.ofName?_eq_none_iff.mp notFound setting isName

/-- The unknown ones among rearranged keys are the same, in the same order. -/
theorem unknownKeys_of_perm
    {otherKeys : List Text}
    (rearranged : keys.Perm otherKeys) :
    unknownKeys keys = unknownKeys otherKeys := by
  refine Text.eq_of_pairwise_lt (pairwise_unknownKeys _) (pairwise_unknownKeys _) fun key => ?_
  rw [mem_unknownKeys, mem_unknownKeys, rearranged.mem_iff]

/-- The order of the entries of a table does not count. -/
theorem ofTable_of_perm
    (distinct : (entries.map Prod.fst).Nodup)
    (rearranged : entries.Perm others) :
    ofTable entries = ofTable others := by
  have keysRearranged := rearranged.map Prod.fst
  have sameKnown : ofKnownEntries entries = ofKnownEntries others := by
    refine eq_of_get_eq fun setting => ?_
    rw [get_ofKnownEntries distinct, get_ofKnownEntries (keysRearranged.nodup_iff.mp distinct),
      Text.lookup_eq_of_perm distinct rearranged]
  rw [ofTable, ofTable, unknownKeys_of_perm keysRearranged, sameKnown]

end Rearranging

/-! ## Settings written as a table -/

/-- Settings in which sequences of names are no lists, and no other values are tuples. -/
def SequencesAreTuples
    (settings : Settings) :
    Prop :=
  ∀ (setting : Setting) (items : List Value),
    (setting.isSequence = true → settings.get setting ≠ .list items) ∧
      (setting.isSequence = false → settings.get setting ≠ .tuple items)

/-- The entry of a setting in a table. -/
def entryOf
    (settings : Settings)
    (setting : Setting) :
    Text × Value :=
  (setting.name, (settings.get setting).asArray)

section Writing

variable
  {settings : Settings}
  {written : List Setting}

/-- What a setting holds comes back from an array, unless list and tuple take turns. -/
theorem held_asArray_iff
    {setting : Setting}
    {value : Value} :
    setting.held value.asArray = value ↔
      ∀ items : List Value,
        (setting.isSequence = true → value ≠ .list items) ∧
          (setting.isSequence = false → value ≠ .tuple items) := by
  cases sequence : setting.isSequence <;> cases value <;>
    simp [Value.asArray, Setting.held, sequence]

/-- Under the names of the written settings their values are listed, and nothing else is. -/
theorem lookup_map_entryOf
    (distinct : written.Nodup)
    (setting : Setting) :
    (written.map settings.entryOf).lookup setting.name =
      if setting ∈ written then some (settings.get setting).asArray else none := by
  have distinctNames : ((written.map settings.entryOf).map Prod.fst).Nodup := by
    rw [List.map_map]
    exact distinct.map Setting.name_injective
  split_ifs with isWritten
  · exact (Text.lookup_eq_some_iff_mem distinctNames).mpr (List.mem_map_of_mem isWritten)
  · rw [Option.eq_none_iff_forall_ne_some]
    intro value listed
    obtain ⟨other, member, isEntry⟩ :=
      List.mem_map.mp ((Text.lookup_eq_some_iff_mem distinctNames).mp listed)
    have sameName : other.name = setting.name := congrArg Prod.fst isEntry
    rw [Setting.name_injective sameName] at member
    exact isWritten member

/--
Settings come back from a table in which at least those are written that differ from the
defaults, exactly if their sequences are tuples.
-/
theorem ofTable_map_entryOf_iff
    (distinct : written.Nodup)
    (rest : ∀ setting ∉ written, settings.get setting = default.get setting) :
    ofTable (written.map settings.entryOf) = .ok settings ↔ settings.SequencesAreTuples := by
  have known : unknownKeys ((written.map settings.entryOf).map Prod.fst) = [] := by
    rw [unknownKeys_eq_nil_iff]
    intro key member
    rw [List.map_map, List.mem_map] at member
    obtain ⟨setting, -, isKey⟩ := member
    exact ⟨setting, isKey.symm⟩
  have distinctNames : ((written.map settings.entryOf).map Prod.fst).Nodup := by
    rw [List.map_map]
    exact distinct.map Setting.name_injective
  have values (setting : Setting) :
      (ofKnownEntries (written.map settings.entryOf)).get setting =
        setting.held (settings.get setting).asArray := by
    rw [get_ofKnownEntries distinctNames, lookup_map_entryOf distinct]
    split_ifs with isWritten
    · rfl
    · rw [rest setting isWritten]
      cases setting <;> rfl
  simp only [ofTable, known, Except.ok.injEq]
  constructor
  · intro comesBack setting
    rw [comesBack] at values
    exact held_asArray_iff.mp (values setting).symm
  · intro tuples
    exact eq_of_get_eq fun setting => (values setting).trans (held_asArray_iff.mpr (tuples setting))

end Writing

/-! ## Loading a table -/

/-- What a table of settings leads to. -/
structure IsOutcomeOf
    (entries : List (Text × Value))
    (outcome : Except Fault Settings) :
    Prop where
  /-- Exactly a table whose keys are all names of settings is accepted. -/
  accepted_iff :
    (∃ settings, outcome = .ok settings) ↔
      ∀ key ∈ entries.map Prod.fst, ∃ setting : Setting, key = setting.name
  /-- Each setting has its value from the table, or else its default. -/
  values :
    ∀ settings, outcome = .ok settings → ∀ setting : Setting,
      settings.get setting =
        ((entries.lookup setting.name).map setting.held).getD (default.get setting)
  /-- The fault of any other table tells all keys that are no settings, in ascending order. -/
  toldKeys :
    ∀ fault, outcome = .error fault → ∃ names : List Text,
      fault = .rejected (.unknownKeys names) ∧
        fault.message =
          "InvalidConfiguration: Unknown configuration keys: ".toList
            ++ ", ".toList.intercalate names ∧
        names.Pairwise (· < ·) ∧
        ∀ name, name ∈ names ↔
          name ∈ entries.map Prod.fst ∧ ∀ setting : Setting, name ≠ setting.name
  /-- Settings of which all that are no defaults are written in the table come back from it. -/
  comesBack_iff :
    ∀ (settings : Settings) (written : List Setting),
      written.Nodup →
      (∀ setting ∉ written, settings.get setting = default.get setting) →
      entries = written.map settings.entryOf →
        (outcome = .ok settings ↔ settings.SequencesAreTuples)

/-- The outcome of a table with distinct keys. -/
theorem isOutcomeOf_ofTable
    {entries : List (Text × Value)}
    (distinct : (entries.map Prod.fst).Nodup) :
    IsOutcomeOf entries (ofTable entries) where
  accepted_iff := by
    rw [← unknownKeys_eq_nil_iff, ofTable]
    split
    next noUnknown => simp [noUnknown]
    next someUnknown => simpa using someUnknown
  values settings accepted setting := by
    rw [ofTable] at accepted
    split at accepted
    · cases accepted
      exact get_ofKnownEntries distinct setting
    · cases accepted
  toldKeys fault rejected := by
    rw [ofTable] at rejected
    split at rejected
    · cases rejected
    · cases rejected
      refine ⟨_, rfl, rfl, pairwise_unknownKeys _, fun name => ?_⟩
      rw [mem_unknownKeys, Setting.ofName?_eq_none_iff]
  comesBack_iff settings written writtenDistinct rest isWritten := by
    rw [isWritten]
    exact ofTable_map_entryOf_iff writtenDistinct rest

/-- A file from whose document a table is selected is loaded as that table. -/
theorem load_of_select
    {disk : Disk}
    {path : Path}
    {document entries : List (Text × Value)}
    (isRead : readDocument disk path = .ok document)
    (selected : select document = .ok (.table entries)) :
    (load disk path).result = ofTable entries := by
  rw [load_of_document isRead, selected]
  rfl

/-- The keys of a table that is selected from a document that is read are distinct. -/
theorem nodup_of_select
    {disk : Disk}
    {path : Path}
    {document entries : List (Text × Value)}
    (isRead : readDocument disk path = .ok document)
    (selected : select document = .ok (.table entries)) :
    (entries.map Prod.fst).Nodup :=
  (Value.hasDistinctKeys_table_iff.mp
    (hasDistinctKeys_of_select (hasDistinctKeys_of_readDocument isRead) selected)).1

/--
Two files are loaded alike if `tool.linecount` is a table with the same entries in both, or
is in neither and they have the same entries at the top level besides `tool`, whatever else
is in them.  The outcome is that of the table that is selected.
-/
theorem load_selectedTable
    {disk otherDisk : Disk}
    {path otherPath : Path}
    {document otherDocument : List (Text × Value)}
    (isRead : readDocument disk path = .ok document)
    (otherIsRead : readDocument otherDisk otherPath = .ok otherDocument)
    (placed : PlacesTable document)
    (otherPlaced : PlacesTable otherDocument) :
    (∀ entries others : List (Text × Value),
      ownTable? document = some (.table entries) →
      ownTable? otherDocument = some (.table others) →
      entries.Perm others →
        (load disk path).result = (load otherDisk otherPath).result) ∧
      (ownTable? document = none →
        ownTable? otherDocument = none →
        (topLevel document).Perm (topLevel otherDocument) →
          (load disk path).result = (load otherDisk otherPath).result) ∧
      ∀ entries : List (Text × Value),
        (ownTable? document).getD (.table (topLevel document)) = .table entries →
          IsOutcomeOf entries (load disk path).result := by
  have selected := select_of_placesTable placed
  have otherSelected := select_of_placesTable otherPlaced
  have alike {entries others : List (Text × Value)}
      (isSelected : select document = .ok (.table entries))
      (otherIsSelected : select otherDocument = .ok (.table others))
      (rearranged : entries.Perm others) :
      (load disk path).result = (load otherDisk otherPath).result := by
    rw [load_of_select isRead isSelected, load_of_select otherIsRead otherIsSelected]
    exact ofTable_of_perm (nodup_of_select isRead isSelected) rearranged
  refine ⟨?_, ?_, ?_⟩
  · intro entries others isOwn otherIsOwn rearranged
    rw [isOwn] at selected
    rw [otherIsOwn] at otherSelected
    exact alike selected otherSelected rearranged
  · intro noOwn otherNoOwn rearranged
    rw [noOwn] at selected
    rw [otherNoOwn] at otherSelected
    exact alike selected otherSelected rearranged
  · intro entries isTable
    rw [isTable] at selected
    rw [load_of_select isRead selected]
    exact isOutcomeOf_ofTable (nodup_of_select isRead selected)

/-- A disk with files of settings: two with a table of their own, and two without one. -/
def tablesDisk : Disk :=
  let file (name text : String) : Text × Node :=
    (name.toList, .file (.bytes (Utf8.encode text.toList)))
  ⟨.folder
    [ file "a.toml" "x=1\n[tool.linecount]\nencoding='ascii'\nwrite_json=true\n",
      file "b.toml" "[tool]\ny=2\n[tool.linecount]\nwrite_json=true\nencoding='ascii'\n",
      file "c.toml" "write_json=true\n[tool]\ny=2\n",
      file "d.toml" "write_json=true\n" ], []⟩

/-- The settings in the tables of the disk. -/
def tableSettings : Settings :=
  { default with encoding := .string "ascii".toList, writeJson := .bool true }

/-- Other keys and another order make no difference, and the settings come back. -/
theorem load_selectedTable_tablesDisk :
    (load tablesDisk (.ofText "a.toml".toList)).result = .ok tableSettings ∧
      (load tablesDisk (.ofText "b.toml".toList)).result = .ok tableSettings ∧
      (load tablesDisk (.ofText "c.toml".toList)).result =
        (load tablesDisk (.ofText "d.toml".toList)).result := by
  have firstRead : readDocument tablesDisk (.ofText "a.toml".toList) =
      .ok
        [ ("x".toList, .integer 1),
          (outerKey, .table
            [(tableKey, .table
              [tableSettings.entryOf .encoding, tableSettings.entryOf .writeJson])]) ] := by
    decide +kernel
  have secondRead : readDocument tablesDisk (.ofText "b.toml".toList) =
      .ok
        [ (outerKey, .table
            [ ("y".toList, .integer 2),
              (tableKey, .table
                [tableSettings.entryOf .writeJson, tableSettings.entryOf .encoding]) ]) ] := by
    decide +kernel
  have thirdRead : readDocument tablesDisk (.ofText "c.toml".toList) =
      .ok
        [ ("write_json".toList, .bool true),
          (outerKey, .table [("y".toList, .integer 2)]) ] := by
    decide +kernel
  have fourthRead : readDocument tablesDisk (.ofText "d.toml".toList) =
      .ok [("write_json".toList, .bool true)] := by
    decide +kernel
  obtain ⟨ownAlike, -, outcome⟩ := load_selectedTable firstRead secondRead
    (by rintro _ ⟨⟩; exact ⟨_, rfl⟩) (by rintro _ ⟨⟩; exact ⟨_, rfl⟩)
  obtain ⟨-, topAlike, -⟩ := load_selectedTable thirdRead fourthRead
    (by rintro _ ⟨⟩; exact ⟨_, rfl⟩) (by rintro _ ⟨⟩)
  have loaded : (load tablesDisk (.ofText "a.toml".toList)).result = .ok tableSettings := by
    refine ((outcome _ rfl).comesBack_iff tableSettings [.encoding, .writeJson]
      (by decide) ?_ rfl).mpr ?_
    · intro setting notWritten
      cases setting <;> simp at notWritten <;> rfl
    · intro setting items
      cases setting <;> simp [Setting.isSequence, tableSettings, default, get]
  refine ⟨loaded, ?_, topAlike rfl rfl (by rfl)⟩
  rw [← loaded]
  exact (ownAlike _ _ rfl rfl (.swap _ _ [])).symm

end Settings

end LineTally
