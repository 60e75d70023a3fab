import LineTally.Proofs.Disk.HoldsText
import LineTally.Proofs.Run.Journal
import LineTally.Proofs.Value.Same
import LineTally.Settings.Load
import Mathlib.Data.Set.List

namespace LineTally

/-!
# Settings files that are reported

Whoever loads a settings file gets its settings or a complaint about the file, unless
what is wrong with it is of a kind that the loading does not expect.  Here these kinds
are told, and nothing else is one of them.
-/

namespace Value

/-- Among texts there is none without an order to those before. -/
theorem unordered?_of_texts
    {before values : List Value}
    (textsBefore : ∀ value ∈ before, ∃ key, value = .string key)
    (texts : ∀ value ∈ values, ∃ key, value = .string key) :
    unordered? before values = none := by
  induction values generalizing before with
  | nil =>
      rfl
  | cons value rest inductionHypothesis =>
      obtain ⟨⟨key, rfl⟩, restTexts⟩ := List.forall_mem_cons.mp texts
      have inOrder : (before.find? fun other => !(Value.string key).haveOrder other) = none := by
        rw [List.find?_eq_none]
        intro other member
        obtain ⟨otherKey, rfl⟩ := textsBefore other member
        simp [haveOrder]
      rw [unordered?, inOrder]
      exact inductionHypothesis
        (List.forall_mem_cons.mpr ⟨⟨key, rfl⟩, textsBefore⟩) restTexts

/-- Nothing keeps texts from being put into an order. -/
theorem orderFault?_of_texts
    {values : List Value}
    (texts : ∀ value ∈ values, ∃ key, value = .string key) :
    orderFault? values = none := by
  have noMoment (kind : MomentKind) : values.any (isMoment kind) = false := by
    rw [List.any_eq_false]
    intro value member
    obtain ⟨key, rfl⟩ := texts value member
    simp [isMoment]
  rw [orderFault?, unordered?_of_texts (by simp) texts]
  simp [momentFault?, noMoment]

/-- The texts of some values are told if all of them are texts. -/
theorem mapM_text?_eq_some_iff
    {values : List Value}
    {keys : List Text} :
    values.mapM text? = some keys ↔ values = keys.map .string := by
  induction values generalizing keys with
  | nil =>
      cases keys <;> simp
  | cons value rest inductionHypothesis =>
      cases keys with
      | nil =>
          simp [List.mapM_cons, Option.bind_eq_some_iff]
      | cons key keys =>
          rw [List.mapM_cons, List.map_cons, List.cons.injEq, ← inductionHypothesis]
          cases value <;> simp [text?, Option.bind_eq_some_iff, and_comm]

end Value

namespace Settings

/-- A loading that gives settings, or that rejects the file as a bad configuration. -/
def IsReported
    (result : Except Fault Settings) :
    Prop :=
  (∃ settings, result = .ok settings) ∨
    ∃ complaint,
      result = .error (.rejected complaint) ∧
        complaint.code = "InvalidConfiguration".toList

/-- Settings are reported as such. -/
theorem isReported_ok
    (settings : Settings) :
    IsReported (.ok settings) :=
  .inl ⟨settings, rfl⟩

/-- A fault is reported if it is a complaint about the configuration. -/
theorem isReported_error_iff
    {fault : Fault} :
    IsReported (.error fault) ↔
      ∃ complaint,
        fault = .rejected complaint ∧ complaint.code = "InvalidConfiguration".toList := by
  simp [IsReported]

/-- A value that is taken for texts of which one or more are no names of settings. -/
def NamesNoSetting
    (value : Value) :
    Prop :=
  ∃ keys : List Text,
    value.members = .ok (keys.map .string) ∧ ∃ key ∈ keys, Setting.ofName? key = none

/-- Texts that are no names of settings are complained about. -/
theorem faultOfItems_texts
    {keys : List Text}
    (someKeys : keys ≠ []) :
    faultOfItems (keys.map .string) = some (.rejected (.unknownKeys (unknownKeys keys))) := by
  have texts : ∀ value ∈ (keys.map Value.string).eraseDups, ∃ key, value = .string key := by
    intro value member
    obtain ⟨key, _, isKey⟩ := List.mem_map.mp (List.mem_eraseDups.mp member)
    exact ⟨key, isKey.symm⟩
  have told := Value.mapM_text?_eq_some_iff.mpr (Eq.refl (keys.map Value.string))
  have inOrder := Value.orderFault?_of_texts texts
  obtain ⟨key, rest, rfl⟩ := List.exists_cons_of_ne_nil someKeys
  rw [List.map_cons] at told inOrder ⊢
  rw [faultOfItems, inOrder, told]

/-- Items that are no names of settings and not all of them texts are not expected. -/
theorem faultOfItems_others
    {items : List Value}
    (others : ∀ keys : List Text, items ≠ keys.map .string) :
    ∃ fault, faultOfItems items = some (.kind fault) := by
  cases items with
  | nil =>
      exact (others [] rfl).elim
  | cons first rest =>
      rw [faultOfItems]
      split
      next =>
        exact ⟨_, rfl⟩
      next keys _ told =>
        exact (others keys (Value.mapM_text?_eq_some_iff.mp told)).elim
      next =>
        exact ⟨_, rfl⟩

/-- The items among some texts that are no names of settings. -/
theorem filter_not_isSettingName
    (keys : List Text) :
    ((keys.map Value.string).filter fun item => !isSettingName item) =
      (keys.filter fun key => (Setting.ofName? key).isNone).map .string := by
  rw [List.filter_map]
  congr 1
  apply List.filter_congr
  intro key _
  simp [isSettingName, Value.text?]

/-- Items among which there are only texts besides the names of settings are all texts. -/
theorem exists_keys_of_filter
    {items : List Value}
    {unknown : List Text}
    (others : (items.filter fun item => !isSettingName item) = unknown.map .string) :
    ∃ keys : List Text, items = keys.map .string := by
  have texts : items ∈ Set.range (List.map Value.string) := by
    rw [Set.range_list_map]
    intro item member
    by_cases named : isSettingName item = true
    · cases item <;> simp only [isSettingName, Value.text?, Bool.false_eq_true] at named
      exact ⟨_, rfl⟩
    · have kept : item ∈ unknown.map Value.string := by
        rw [← others, List.mem_filter]
        exact ⟨member, by simp [named]⟩
      obtain ⟨key, _, isKey⟩ := List.mem_map.mp kept
      exact ⟨key, isKey⟩
  obtain ⟨keys, isItems⟩ := texts
  exact ⟨keys, isItems.symm⟩

/-- A fault of a kind that is not expected is not reported. -/
theorem not_isReported_kind
    (fault : KindFault) :
    ¬ IsReported (.error (.kind fault)) := by
  simp [isReported_error_iff]

/-- A value that is no table is reported exactly if it is taken for names of no settings. -/
theorem isReported_faultOfOther_iff
    {value : Value} :
    IsReported (.error (faultOfOther value)) ↔ NamesNoSetting value := by
  rw [faultOfOther]
  cases isMembers : value.members with
  | error fault =>
      apply iff_of_false (not_isReported_kind fault)
      rintro ⟨keys, isKeys, _⟩
      cases isMembers.symm.trans isKeys
  | ok items =>
      simp only
      by_cases texts : ∃ keys : List Text, items = keys.map .string
      · obtain ⟨keys, rfl⟩ := texts
        rw [filter_not_isSettingName]
        by_cases allNamed : (keys.filter fun key => (Setting.ofName? key).isNone) = []
        · rw [allNamed]
          apply iff_of_false (not_isReported_kind _)
          rintro ⟨others, isOthers, key, member, unknown⟩
          have sameKeys : others = keys := by
            rw [isMembers, Except.ok.injEq] at isOthers
            exact (List.map_injective_iff.mpr (fun _ _ => Value.string.inj) isOthers).symm
          subst sameKeys
          exact (List.filter_eq_nil_iff.mp allNamed key member) (by simp [unknown])
        · rw [faultOfItems_texts allNamed]
          apply iff_of_true (isReported_error_iff.mpr ⟨_, rfl, rfl⟩)
          obtain ⟨key, member⟩ := List.exists_mem_of_ne_nil _ allNamed
          rw [List.mem_filter, Option.isNone_iff_eq_none] at member
          exact ⟨keys, isMembers, key, member⟩
      · obtain ⟨fault, isFault⟩ :=
          faultOfItems_others fun unknown others => texts (exists_keys_of_filter others)
        rw [isFault]
        apply iff_of_false (not_isReported_kind fault)
        rintro ⟨keys, isKeys, _⟩
        rw [isMembers, Except.ok.injEq] at isKeys
        exact texts ⟨keys, isKeys⟩

/-- A table in the place of the settings is reported, whatever its keys are. -/
theorem isReported_ofTable
    (entries : List (Text × Value)) :
    IsReported (ofTable entries) := by
  rw [ofTable]
  split
  · exact isReported_ok _
  · exact isReported_error_iff.mpr ⟨_, rfl, rfl⟩

/-- What stands in the place of the settings is reported as a table or as names of no settings. -/
theorem isReported_ofValue_iff
    {value : Value} :
    IsReported (ofValue value) ↔
      (∃ entries, value = .table entries) ∨ NamesNoSetting value := by
  rw [ofValue.eq_def]
  split
  next entries =>
    exact iff_of_true (isReported_ofTable entries) (.inl ⟨entries, rfl⟩)
  next notTable =>
    rw [isReported_faultOfOther_iff]
    constructor
    · exact .inr
    · rintro (⟨entries, isTable⟩ | namesNoSetting)
      · exact (notTable entries isTable).elim
      · exact namesNoSetting

/--
A document in which `tool` is no table, or in which there is something in the place of the
settings that is neither a table nor taken for names of no settings.
-/
inductive Misplaces
    (document : List (Text × Value)) :
    Prop where
  | outer
      {outer : Value}
      (listed : document.lookup outerKey = some outer)
      (noTable : ∀ tools, outer ≠ .table tools)
  | inner
      {tools : List (Text × Value)}
      {inner : Value}
      (outerListed : document.lookup outerKey = some (.table tools))
      (listed : tools.lookup tableKey = some inner)
      (noTable : ∀ entries, inner ≠ .table entries)
      (noNames : ¬ NamesNoSetting inner)

/-- A document without `tool` does not misplace anything. -/
theorem not_misplaces_of_none
    {document : List (Text × Value)}
    (unlisted : document.lookup outerKey = none) :
    ¬ Misplaces document := by
  intro misplaces
  cases misplaces with
  | outer listed =>
      cases unlisted.symm.trans listed
  | inner listed =>
      cases unlisted.symm.trans listed

/-- A document with a table as `tool` misplaces what stands in it, if anything. -/
theorem misplaces_iff_of_table
    {document tools : List (Text × Value)}
    (outerListed : document.lookup outerKey = some (.table tools)) :
    Misplaces document ↔
      ∃ inner,
        tools.lookup tableKey = some inner ∧
          (∀ entries, inner ≠ .table entries) ∧ ¬ NamesNoSetting inner := by
  constructor
  · intro misplaces
    cases misplaces with
    | outer other noTable =>
        cases outerListed.symm.trans other
        exact (noTable tools rfl).elim
    | inner other listed noTable noNames =>
        cases outerListed.symm.trans other
        exact ⟨_, listed, noTable, noNames⟩
  · rintro ⟨inner, listed, noTable, noNames⟩
    exact .inner outerListed listed noTable noNames

/-- From a document with a table as `tool` the table in it is selected, or what is beside it. -/
theorem select_of_table
    {document tools : List (Text × Value)}
    (outerListed : document.lookup outerKey = some (.table tools)) :
    select document =
      .ok
        ((tools.lookup tableKey).getD
          (.table (document.filter fun entry => entry.1 ≠ outerKey))) := by
  simp only [select, outerListed]

/-- From a document in which `tool` is no table nothing is selected. -/
theorem select_of_noTable
    {document : List (Text × Value)}
    {outer : Value}
    (outerListed : document.lookup outerKey = some outer)
    (noTable : ∀ tools, outer ≠ .table tools) :
    select document = .error (.noAttribute outer.kind "get".toList) := by
  rw [select, outerListed]
  cases outer
  case table tools =>
    exact (noTable tools rfl).elim
  all_goals rfl

/-- What is selected from a document is reported, unless the document misplaces it. -/
theorem isReported_select_iff
    {document : List (Text × Value)} :
    IsReported (((select document).mapError .kind).bind ofValue) ↔ ¬ Misplaces document := by
  cases outerListed : document.lookup outerKey with
  | none =>
      rw [select, outerListed]
      exact iff_of_true (isReported_ofTable _) (not_misplaces_of_none outerListed)
  | some outer =>
      by_cases isTable : ∃ tools, outer = .table tools
      · obtain ⟨tools, rfl⟩ := isTable
        rw [select_of_table outerListed, misplaces_iff_of_table outerListed]
        cases listed : tools.lookup tableKey with
        | none =>
            exact iff_of_true (isReported_ofTable _) nofun
        | some inner =>
            refine isReported_ofValue_iff.trans ?_
            simp only [Option.getD_some, Option.some.injEq, exists_eq_left', not_and_or, not_forall,
              not_not]
      · have noTable := not_exists.mp isTable
        rw [select_of_noTable outerListed noTable]
        exact iff_of_false (not_isReported_kind _) (not_not.mpr (.outer outerListed noTable))

/--
What is wrong with a settings file that is not reported as a bad configuration: its path
holds a NUL, its bytes are no text, its document has a number or a depth that is not
taken, or it misplaces the settings.
-/
inductive EscapesReport
    (room : Nat)
    (disk : Disk)
    (path : Path) :
    Prop where
  | nulInPath
      (nul : Disk.holdsNul path = true)
  | noText
      {content : List UInt8}
      (found : disk.content? path = some content)
      (noText : ∀ text, ¬ disk.HoldsText path text)
  | notTaken
      {text : Text}
      {fault : Toml.ReadFault}
      (holds : disk.HoldsText path text)
      (failed : Toml.readWithin room text.unifyLineEnds = .error fault)
      (wellFormed : fault ≠ .malformed)
  | misplaced
      {text : Text}
      {document : List (Text × Value)}
      (holds : disk.HoldsText path text)
      (isDocument : Toml.readWithin room text.unifyLineEnds = .ok document)
      (misplaces : Misplaces document)

section Loading

variable
  {reader : Toml.Reader}
  {disk : Disk}
  {path : Path}

/-- A document that cannot be had is what a loading fails with. -/
theorem load_of_noDocument
    {fault : Fault}
    (failed : readDocumentBy reader disk path = .error fault) :
    (loadBy reader disk path).result = .error fault := by
  rw [loadBy, Journal.result_bind, failed]
  rfl

/-- The settings of a document are what is selected from it. -/
theorem load_of_document
    {document : List (Text × Value)}
    (isDocument : readDocumentBy reader disk path = .ok document) :
    (loadBy reader disk path).result = ((select document).mapError .kind).bind ofValue := by
  simp only [loadBy, Journal.result_bind, isDocument, Journal.ofExcept, Journal.ofKind,
    Journal.note, Except.bind]

/-- The document in a file that holds a text is what is read from the text. -/
theorem readDocument_of_holdsText
    (reader : Toml.Reader)
    {text : Text}
    (holds : disk.HoldsText path text) :
    readDocumentBy reader disk path =
      match Toml.readWithin reader.room text.unifyLineEnds with
      | .ok document => .ok document
      | .error .malformed =>
          .error
            (.rejected
              (.unloadable path.toText (.malformed (reader.words text.unifyLineEnds))))
      | .error (.number fault) => .error (.number fault)
      | .error .tooDeep => .error .tooDeep := by
  obtain ⟨content, found, decoded⟩ := holds
  cases read : Toml.readWithin reader.room text.unifyLineEnds with
  | ok document =>
      simp only [readDocumentBy, found, decoded, read]
  | error fault =>
      cases fault <;> simp only [readDocumentBy, found, decoded, read]

/-- A path with a NUL is neither reported nor asked the disk for. -/
theorem readDocument_of_holdsNul
    (nul : Disk.holdsNul path = true) :
    readDocumentBy reader disk path = .error (.disk .nulInPath) := by
  simp only [readDocumentBy, Disk.read, nul, if_true]

/-- Of a file that holds a text it is the text alone that is reported or escapes. -/
theorem isReported_load_iff_of_holdsText
    {text : Text}
    (holds : disk.HoldsText path text) :
    IsReported (loadBy reader disk path).result ↔
      (∃ document,
          Toml.readWithin reader.room text.unifyLineEnds = .ok document ∧
            ¬ Misplaces document) ∨
        Toml.readWithin reader.room text.unifyLineEnds = .error .malformed := by
  have isRead := readDocument_of_holdsText reader holds
  cases read : Toml.readWithin reader.room text.unifyLineEnds with
  | ok document =>
      rw [read] at isRead
      rw [load_of_document isRead, isReported_select_iff]
      simp
  | error fault =>
      rw [read] at isRead
      cases fault <;> rw [load_of_noDocument isRead, isReported_error_iff] <;> simp
      rfl

/-- A file that holds a text escapes by what is read from the text. -/
theorem escapesReport_iff_of_holdsText
    {room : Nat}
    {text : Text}
    (nul : Disk.holdsNul path = false)
    (holds : disk.HoldsText path text) :
    EscapesReport room disk path ↔
      (∃ fault, Toml.readWithin room text.unifyLineEnds = .error fault ∧ fault ≠ .malformed) ∨
        ∃ document,
          Toml.readWithin room text.unifyLineEnds = .ok document ∧ Misplaces document := by
  constructor
  · intro escapes
    cases escapes with
    | nulInPath holdsNul =>
        cases nul.symm.trans holdsNul
    | noText found noText =>
        exact (noText text holds).elim
    | notTaken holdsOther failed wellFormed =>
        cases holds.unique holdsOther
        exact .inl ⟨_, failed, wellFormed⟩
    | misplaced holdsOther isDocument misplaces =>
        cases holds.unique holdsOther
        exact .inr ⟨_, isDocument, misplaces⟩
  · rintro (⟨fault, failed, wellFormed⟩ | ⟨document, isDocument, misplaces⟩)
    · exact .notTaken holds failed wellFormed
    · exact .misplaced holds isDocument misplaces

/-- A file that cannot be read at all does not escape. -/
theorem not_escapesReport_of_unread
    {room : Nat}
    {fault : DiskFault}
    (nul : Disk.holdsNul path = false)
    (unread : disk.read path = .error fault) :
    ¬ EscapesReport room disk path := by
  have noContent : ∀ content, disk.read path ≠ .ok content := by
    intro content found
    cases unread.symm.trans found
  intro escapes
  cases escapes with
  | nulInPath holdsNul =>
      cases nul.symm.trans holdsNul
  | noText isContent =>
      exact noContent _ (Disk.read_of_content? isContent)
  | notTaken holds =>
      obtain ⟨content, found, _⟩ := holds
      exact noContent content found
  | misplaced holds =>
      obtain ⟨content, found, _⟩ := holds
      exact noContent content found

/-- A file that cannot be read at all is reported. -/
theorem isReported_load_of_unread
    {fault : DiskFault}
    (nul : Disk.holdsNul path = false)
    (unread : disk.read path = .error fault) :
    IsReported (loadBy reader disk path).result := by
  have notNul : fault ≠ .nulInPath := by
    rintro rfl
    rw [Disk.read, nul] at unread
    simp only [Bool.false_eq_true, if_false] at unread
    split at unread <;> cases unread
  cases fault with
  | nulInPath =>
      exact (notNul rfl).elim
  | refused error shown =>
      have failed :
          readDocumentBy reader disk path =
            .error (.rejected (.unloadable path.toText (.disk (.refused error shown)))) := by
        simp only [readDocumentBy, unread]
      rw [load_of_noDocument failed]
      exact isReported_error_iff.mpr ⟨_, rfl, rfl⟩

/-- A file with bytes that are no text is not reported. -/
theorem not_isReported_load_of_noText
    {content : List UInt8}
    (found : disk.read path = .ok content)
    (noText : ∀ text, ¬ disk.HoldsText path text) :
    ¬ IsReported (loadBy reader disk path).result := by
  cases decoded : Charset.utf8.decode .strict content with
  | ok text =>
      exact (noText text ⟨content, found, decoded⟩).elim
  | error fault =>
      have failed : readDocumentBy reader disk path = .error (.decode fault) := by
        simp only [readDocumentBy, found, decoded]
      rw [load_of_noDocument failed, isReported_error_iff]
      nofun

/--
The loading of a settings file gives settings or a complaint about the configuration,
whatever is at its path, unless the file is one of those that escape.  This holds for every
reader, whatever its room for values within values and its words are.
-/
theorem isReported_load_iff :
    IsReported (loadBy reader disk path).result ↔ ¬ EscapesReport reader.room disk path := by
  cases nul : Disk.holdsNul path with
  | true =>
      rw [load_of_noDocument (readDocument_of_holdsNul nul), isReported_error_iff]
      exact iff_of_false nofun (not_not.mpr (.nulInPath nul))
  | false =>
      by_cases isText : ∃ text, disk.HoldsText path text
      · obtain ⟨text, holds⟩ := isText
        rw [isReported_load_iff_of_holdsText holds, escapesReport_iff_of_holdsText nul holds]
        cases Toml.readWithin reader.room text.unifyLineEnds with
        | ok document => simp
        | error fault => simp
      · have noText := not_exists.mp isText
        cases found : disk.read path with
        | ok content =>
            exact iff_of_false (not_isReported_load_of_noText found noText)
              (not_not.mpr (.noText (Disk.content?_of_read found) noText))
        | error fault =>
            exact iff_of_true (isReported_load_of_unread nul found)
              (not_escapesReport_of_unread nul found)

end Loading

/-- A disk with a settings file of one byte, which starts no character. -/
def strayDisk : Disk :=
  ⟨.folder [("c.toml".toList, .file (.bytes [0xFF]))], []⟩

/-- Not every settings file is reported: one that is no text is not. -/
theorem not_always_isReported_load :
    ¬ ∀ (disk : Disk) (path : Path), IsReported (load disk path).result := by
  intro always
  have found : strayDisk.read (.ofText "c.toml".toList) = .ok [0xFF] := by
    decide +kernel
  have stray :
      Charset.utf8.decode .strict [0xFF] =
        .error (.stray "utf-8".toList 0 [0xFF] "invalid start byte".toList) := by
    decide +kernel
  apply not_isReported_load_of_noText found _ (always strayDisk _)
  rintro text ⟨content, foundToo, decoded⟩
  cases found.symm.trans foundToo
  cases stray.symm.trans decoded

end Settings

end LineTally
