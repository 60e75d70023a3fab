import LineTally.Proofs.Path.Text
import LineTally.Proofs.Run.Collecting
import LineTally.Proofs.Settings.Load
import LineTally.Run.Unchecked

namespace LineTally

/-!
# Selecting by values of the right kinds

The steps of a selection that look at values only when they need them do the same as those
for texts, if the values are sequences of texts and references to files.
-/

namespace Value

/-- A value that is a list or a tuple of the given items. -/
inductive IsSequence
    (items : List Value) :
    Value → Prop where
  | list : IsSequence items (.list items)
  | tuple : IsSequence items (.tuple items)

section Sequences

variable
  {value : Value}
  {items : List Value}
  {texts : List Text}

/-- A value has the items of a sequence exactly if it is one. -/
theorem sequence?_eq_some_iff :
    value.sequence? = some items ↔ value.IsSequence items := by
  constructor
  · intro isSequence
    cases value <;> cases isSequence
    · exact .list
    · exact .tuple
  · rintro (_ | _) <;> rfl

/-- A value has the texts of a sequence exactly if it is one of these texts. -/
theorem texts?_eq_some_iff :
    value.texts? = some texts ↔ value.IsSequence (texts.map .string) := by
  simp only [texts?, Option.bind_eq_bind, Option.bind_eq_some_iff, mapM_text?_eq_some_iff,
    sequence?_eq_some_iff, exists_eq_right]

/-- A sequence can be gone through. -/
theorem items_of_isSequence
    (isSequence : value.IsSequence items) :
    value.items = .ok items := by
  cases isSequence <;> rfl

/-- A sequence counts as false exactly if it has no items. -/
theorem isEmpty_of_isSequence
    (isSequence : value.IsSequence items) :
    value.isEmpty = items.isEmpty := by
  cases isSequence <;> rfl

/-- A set can hold any texts. -/
theorem firstUnhashable?_texts
    (texts : List Text) :
    firstUnhashable? (texts.map .string) = none := by
  induction texts with
  | nil =>
      rfl
  | cons text rest inductionHypothesis =>
      rw [List.map_cons, firstUnhashable?, inductionHypothesis]
      rfl

/-- The texts of a sequence make a set. -/
theorem members_of_isSequence
    (isSequence : value.IsSequence (texts.map .string)) :
    value.members = .ok (texts.map .string) := by
  rw [members, items_of_isSequence isSequence]
  simp only [bind, Except.bind, firstUnhashable?_texts]
  rfl

/-- A text is among others as a value exactly if it is as a text. -/
@[simp]
theorem contains_texts
    (texts : List Text)
    (text : Text) :
    (texts.map Value.string).contains (.string text) = texts.contains text := by
  induction texts with
  | nil =>
      rfl
  | cons first rest inductionHypothesis =>
      rw [List.map_cons, List.contains_cons, List.contains_cons, inductionHypothesis]
      rfl

end Sequences

end Value

/-- A reference to a file as a value. -/
def FileRef.toValue :
    FileRef → Value
  | .ofText text => .string text
  | .ofPath path => .path path

namespace Selection

variable
  {disk : Disk}
  {endings ignored excluded : Value}
  {extensions names folders : List Text}

/-- Among values that are texts, all texts are found. -/
theorem textsAmong_texts
    (texts : List Text) :
    textsAmong (texts.map .string) = texts := by
  rw [textsAmong, List.filterMap_map]
  exact List.filterMap_some

/-- Values for which a question never fails are sorted out by its answers. -/
theorem filterM_eq_ok
    {ε α : Type}
    {question : α → Except ε Bool}
    {β : Type}
    {ofItem : β → α}
    {answer : β → Bool}
    (answered : ∀ item, question (ofItem item) = .ok (answer item))
    (items : List β) :
    (items.map ofItem).filterM question = .ok ((items.filter answer).map ofItem) := by
  have fromKept (kept : List α) :
      (items.map ofItem).filterAuxM question kept =
        .ok (((items.filter answer).map ofItem).reverse ++ kept) := by
    induction items generalizing kept with
    | nil =>
        rfl
    | cons item rest inductionHypothesis =>
        rw [List.map_cons, List.filterAuxM, answered item]
        cases isKept : answer item with
        | true =>
            simpa [bind, Except.bind, isKept] using inductionHypothesis (ofItem item :: kept)
        | false =>
            simpa [bind, Except.bind, isKept] using inductionHypothesis kept
  rw [List.filterM, fromKept]
  simp [bind, Except.bind, pure, Except.pure]

/-- The base name of a reference is told by value as it is by the reference. -/
theorem baseNameOf_toValue
    (reference : FileRef) :
    baseNameOf reference.toValue = .ok (.string reference.baseName) := by
  cases reference <;> rfl

/-- Whether a reference is ignored is told by value as it is by the reference. -/
theorem isIgnoredByValue_toValue
    (isNames : ignored.IsSequence (names.map .string))
    (reference : FileRef) :
    isIgnoredByValue ignored reference.toValue = .ok (isIgnored names reference) := by
  rw [isIgnoredByValue, baseNameOf_toValue, Value.members_of_isSequence isNames]
  simp only [bind, Except.bind, pure, Except.pure, Value.contains_texts, isIgnored]

/-- References are dropped by value as they are by themselves. -/
theorem dropIgnoredByValue_toValue
    (isNames : ignored.IsSequence (names.map .string))
    (references : List FileRef) :
    dropIgnoredByValue ignored (references.map FileRef.toValue) =
      .ok ((dropIgnored names references).map FileRef.toValue) := by
  rw [dropIgnored_eq_filter, dropIgnoredByValue, Value.members_of_isSequence isNames]
  cases names with
  | nil =>
      have allKept : references.filter (fun reference => !isIgnored [] reference) = references :=
        List.filter_eq_self.mpr fun _ _ => rfl
      rw [allKept]
      rfl
  | cons name names =>
      apply filterM_eq_ok
      intro reference
      simp only [baseNameOf_toValue, bind, Except.bind, pure, Except.pure, Value.contains_texts,
        isIgnored]

/-- Texts are ignored by value as they are as references. -/
theorem dropIgnoredByValue_texts
    (isNames : ignored.IsSequence (names.map .string))
    (texts : List Text) :
    dropIgnoredByValue ignored (texts.map .string) =
      .ok (((dropIgnored names (texts.map .ofText)).map FileRef.toText).map .string) := by
  have dropped := dropIgnoredByValue_toValue isNames (texts.map .ofText)
  rw [dropIgnored_eq_filter, List.filter_map, List.map_map, List.map_map] at dropped
  rw [map_toText_dropIgnored]
  exact dropped

/-- Endings that are texts choose paths as extensions do. -/
theorem withEndings_texts
    (extensions : List Text)
    (paths : List Path) :
    withEndings (extensions.map .string) paths = .ok (withExtensions extensions paths) := by
  have ofExtension (extension : Text) :
      (paths.filterM fun path => hasEnding path.name (.string extension)) =
        .ok (paths.filter fun path => extension.isSuffixOf path.name) := by
    have sorted := @filterM_eq_ok KindFault Path
      (fun path => hasEnding path.name (.string extension)) Path id _ (fun path => rfl) paths
    simpa using sorted
  have ofAll : ((extensions.map Value.string).mapM fun ending =>
      paths.filterM fun path => hasEnding path.name ending) =
        .ok (extensions.map fun extension =>
          paths.filter fun path => extension.isSuffixOf path.name) := by
    rw [List.mapM_map]
    simp only [Function.comp_def, ofExtension]
    exact List.mapM_pure
  rw [withEndings, ofAll]
  simp [withExtensions, List.flatMap, bind, Except.bind, pure, Except.pure]

/-- The folders that are excluded by a list or tuple of texts are these texts. -/
theorem excludedNames_texts
    (isFolders : excluded.IsSequence (folders.map .string)) :
    excludedNames excluded = .ok (folders.map .string) := by
  rw [excludedNames, Value.isEmpty_of_isSequence isFolders, Value.members_of_isSequence isFolders]
  cases folders <;> rfl

/-- A search by lists or tuples of texts is a search by these texts. -/
theorem findByValue_texts
    (isExtensions : endings.IsSequence (extensions.map .string))
    (isFolders : excluded.IsSequence (folders.map .string))
    (folder : Path) :
    findByValue disk endings excluded (.path folder) =
      Journal.ofDisk (find disk extensions folders (.ofPath folder)) := by
  have isWalk : walkByValue disk excluded (.path folder) =
      Journal.ofDisk (disk.walkFrom folders (.ofPath folder)) := by
    simp only [walkByValue, excludedNames_texts isFolders, Value.fileRef, Journal.ofKind_ok,
      pure_bind, textsAmong_texts]
  rw [findByValue, isWalk, Value.items_of_isSequence isExtensions, find]
  cases disk.walkFrom folders (.ofPath folder) with
  | error fault =>
      rfl
  | ok paths =>
      simp [withEndings_texts, Journal.ofDisk_ok, Journal.ofKind_ok]

/-- The file that a reference names is named by its text. -/
theorem fileName_of_fileRef?
    {value : Value}
    {reference : FileRef}
    (isReference : value.fileRef? = some reference) :
    value.fileName = .ok (.string reference.toText) := by
  cases value <;> cases isReference <;> rfl

/-- The files that references name are named by their texts. -/
theorem mapM_fileName_of_fileRef?
    {items : List Value}
    {references : List FileRef}
    (areReferences : items.mapM Value.fileRef? = some references) :
    items.mapM Value.fileName = .ok ((references.map FileRef.toText).map .string) := by
  induction items generalizing references with
  | nil =>
      cases areReferences
      rfl
  | cons item rest inductionHypothesis =>
      simp only [List.mapM_cons, Option.bind_eq_bind, Option.bind_eq_some_iff] at areReferences
      obtain ⟨reference, isReference, others, areOthers, made⟩ := areReferences
      cases made
      rw [List.mapM_cons, fileName_of_fileRef? isReference, inductionHypothesis areOthers]
      rfl

/-- Files are gathered by lists or tuples of texts as they are by these texts. -/
theorem gatherByValue_texts
    {value : Value}
    {input : Input}
    (isExtensions : endings.IsSequence (extensions.map .string))
    (isFolders : excluded.IsSequence (folders.map .string))
    (isInput : Input.ofValue? value = some input) :
    gatherByValue disk endings excluded value = do
      let found ← Journal.ofDisk (gather disk extensions folders input)
      return found.map .string := by
  rw [Input.ofValue?] at isInput
  split at isInput
  next reference isReference =>
    cases isInput
    simp only [gatherByValue, isReference, findByValue_texts isExtensions isFolders, gather]
    cases disk.isFolder reference.toPath with
    | error fault =>
        rfl
    | ok isFolder =>
        cases isFolder with
        | false =>
            rfl
        | true =>
            rfl
  next noReference =>
    simp only [Option.bind_eq_bind, Option.bind_eq_some_iff] at isInput
    obtain ⟨items, isSequence, references, areReferences, made⟩ := isInput
    cases made
    have isItems := Value.items_of_isSequence (Value.sequence?_eq_some_iff.mp isSequence)
    simp only [gatherByValue, noReference, isItems, Journal.ofKind_ok, pure_bind,
      mapM_fileName_of_fileRef? areReferences, gather, Journal.ofDisk_ok]

/-- The files that are to be counted are collected by value as they are by texts. -/
theorem collectByValue_texts
    {value : Value}
    {input : Input}
    (isExtensions : endings.IsSequence (extensions.map .string))
    (isNames : ignored.IsSequence (names.map .string))
    (isFolders : excluded.IsSequence (folders.map .string))
    (isInput : Input.ofValue? value = some input) :
    collectByValue disk endings ignored excluded value = do
      let kept ← collect disk extensions names folders input
      return kept.map .string := by
  simp only [collectByValue, gatherByValue_texts isExtensions isFolders isInput, collect,
    bind_assoc, pure_bind, dropIgnoredByValue_texts isNames, Journal.ofKind_ok,
    List.length_map]

end Selection

end LineTally
