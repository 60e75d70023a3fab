import LineTally.Proofs.Path.BaseName
import LineTally.Proofs.Run.Unchecked

namespace LineTally

/-!
# The rules of ignoring

Each reference is kept or dropped by itself, by its base name alone.  So the rules may be
given in any order, more than once and in several steps, and more rules keep less.  The
base name is what follows the last slash: the folders before it do not count.
-/

namespace FileRef

variable
  {name : Text}

/-- The base name of a text without slashes is the text. -/
theorem baseName_of_notMem
    (noSlash : '/' ∉ name) :
    (FileRef.ofText name).baseName = name :=
  Text.afterLast_of_notMem noSlash

/-- The base name of a text below a folder is what follows the folder. -/
theorem baseName_below
    (noSlash : '/' ∉ name)
    (folder : Text) :
    (FileRef.ofText (folder ++ '/' :: name)).baseName = name :=
  Text.afterLast_append noSlash folder

/-- The path that such a text stands for has the same base name, if the name is one of a path. -/
theorem baseName_ofPath_below
    (noSlash : '/' ∉ name)
    (notEmpty : name ≠ [])
    (notDot : name ≠ ['.'])
    (folder : Text) :
    (FileRef.ofPath (.ofText (folder ++ '/' :: name))).baseName = name := by
  have isParts : (Path.ofText (folder ++ '/' :: name)).parts = Path.names folder ++ [name] := by
    rw [Path.ofText, Path.names_append_slash, Path.names_of_notMem noSlash notEmpty notDot]
  have someParts : (Path.ofText (folder ++ '/' :: name)).parts ≠ [] := by
    simp [isParts]
  calc
    (FileRef.ofPath (.ofText (folder ++ '/' :: name))).baseName
        = (Path.ofText (folder ++ '/' :: name)).name :=
      (Path.afterLast_toText (Path.isNormal_ofText _) someParts).1
    _ = name := by
      rw [Path.name, isParts, List.getLast?_concat, Option.getD_some]

end FileRef

namespace Selection

section Rules

variable
  {ignored others : List Text}
  {references : List FileRef}

/-- A reference is ignored exactly if its base name is among the rules. -/
theorem isIgnored_iff
    {reference : FileRef} :
    isIgnored ignored reference = true ↔ reference.baseName ∈ ignored :=
  List.contains_iff_mem

/-- References with the same base name are ignored together. -/
theorem isIgnored_congr
    {reference other : FileRef}
    (sameName : reference.baseName = other.baseName) :
    isIgnored ignored reference = isIgnored ignored other := by
  rw [isIgnored, isIgnored, sameName]

/-- Only which names are among the rules counts, not their order or number. -/
theorem dropIgnored_congr
    (same : ∀ name, name ∈ ignored ↔ name ∈ others) :
    dropIgnored ignored references = dropIgnored others references := by
  rw [dropIgnored_eq_filter, dropIgnored_eq_filter]
  apply List.filter_congr
  intro reference _
  rw [Bool.not_inj_iff, Bool.eq_iff_iff, isIgnored_iff, isIgnored_iff]
  exact same reference.baseName

/-- To drop by all rules is to drop by some of them first and then by the others. -/
theorem dropIgnored_append :
    dropIgnored (ignored ++ others) references =
      dropIgnored others (dropIgnored ignored references) := by
  rw [dropIgnored_eq_filter, dropIgnored_eq_filter, dropIgnored_eq_filter, List.filter_filter]
  apply List.filter_congr
  intro reference _
  simp [isIgnored, Bool.and_comm]

/-- More rules keep less, in the same order. -/
theorem dropIgnored_sublist
    (fewer : ignored ⊆ others) :
    (dropIgnored others references).Sublist (dropIgnored ignored references) := by
  have sameRules (name : Text) : name ∈ others ↔ name ∈ ignored ++ others := by
    rw [List.mem_append]
    exact ⟨.inr, fun isRule => isRule.elim (fun isFew => fewer isFew) id⟩
  rw [dropIgnored_congr sameRules, dropIgnored_append, dropIgnored_eq_filter]
  exact List.filter_sublist

end Rules

/--
What is kept of some references are those that are not ignored, in their order, whether the
rules are looked at as texts or as values.  The rules count as a set, they may be applied one
after the other in any order and again, and more of them keep less.  A name is ignored below
any folder exactly if it is among the rules, and a path like its text.
-/
theorem dropIgnored_byBaseNames
    (references : List FileRef)
    (ignored others : List Text) :
    dropIgnored ignored references =
        references.filter (fun reference => !isIgnored ignored reference) ∧
      (∀ rules : Value, rules.IsSequence (ignored.map .string) →
        dropIgnoredByValue rules (references.map FileRef.toValue) =
            .ok ((dropIgnored ignored references).map FileRef.toValue) ∧
          ∀ reference : FileRef,
            isIgnoredByValue rules reference.toValue = .ok (isIgnored ignored reference)) ∧
      ((∀ name, name ∈ ignored ↔ name ∈ others) →
        dropIgnored ignored references = dropIgnored others references) ∧
      dropIgnored others (dropIgnored ignored references) =
        dropIgnored (ignored ++ others) references ∧
      dropIgnored ignored (dropIgnored others references) =
        dropIgnored (ignored ++ others) references ∧
      dropIgnored ignored (dropIgnored ignored references) = dropIgnored ignored references ∧
      (ignored ⊆ others →
        (dropIgnored others references).Sublist (dropIgnored ignored references)) ∧
      (∀ folder name : Text, '/' ∉ name →
        isIgnored ignored (.ofText (folder ++ '/' :: name)) = isIgnored ignored (.ofText name) ∧
          (isIgnored ignored (.ofText name) = true ↔ name ∈ ignored) ∧
          (name ≠ [] → name ≠ ['.'] →
            isIgnored ignored (.ofPath (.ofText (folder ++ '/' :: name))) =
              isIgnored ignored (.ofText name))) ∧
      ∀ path : Path,
        isIgnored ignored (.ofPath path) = isIgnored ignored (.ofText path.toText) := by
  refine ⟨dropIgnored_eq_filter ignored references, ?_, dropIgnored_congr,
    dropIgnored_append.symm, ?_, ?_, dropIgnored_sublist, ?_, fun path => isIgnored_congr rfl⟩
  · intro rules isRules
    exact ⟨dropIgnoredByValue_toValue isRules references, isIgnoredByValue_toValue isRules⟩
  · rw [← dropIgnored_append]
    exact dropIgnored_congr fun name => by rw [List.mem_append, List.mem_append, or_comm]
  · rw [← dropIgnored_append]
    exact dropIgnored_congr fun name => by rw [List.mem_append, or_self]
  · intro folder name noSlash
    have sameAlone := FileRef.baseName_of_notMem noSlash
    refine ⟨?_, ?_, ?_⟩
    · exact isIgnored_congr ((FileRef.baseName_below noSlash folder).trans sameAlone.symm)
    · rw [isIgnored_iff, sameAlone]
    · intro notEmpty notDot
      have sameBelow := FileRef.baseName_ofPath_below noSlash notEmpty notDot folder
      exact isIgnored_congr (sameBelow.trans sameAlone.symm)

/-- A text below a folder, a path, and a text that ends with a slash. -/
def mixedReferences : List FileRef :=
  [.ofText "x//a.m".toList, .ofPath ⟨.here, ["b.m".toList]⟩, .ofText "a.m/".toList]

/--
By one rule the text below the folder is dropped, also if the rule is given as a value or
twice; by one rule more the path is dropped, too.
-/
theorem dropIgnored_byBaseNames_mixedReferences :
    dropIgnoredByValue (.tuple [.string "a.m".toList])
        [.string "x//a.m".toList, .path ⟨.here, ["b.m".toList]⟩, .string "a.m/".toList] =
      .ok [.path ⟨.here, ["b.m".toList]⟩, .string "a.m/".toList] ∧
      dropIgnored ["a.m".toList, "a.m".toList] mixedReferences =
        dropIgnored ["a.m".toList] mixedReferences ∧
      [FileRef.ofText "a.m/".toList].Sublist (dropIgnored ["a.m".toList] mixedReferences) ∧
      isIgnored ["a.m".toList] (.ofPath (.ofText "x//a.m".toList)) = true := by
  refine ⟨?_, ?_, ?_, ?_⟩
  · have kept : dropIgnored ["a.m".toList] mixedReferences =
        [.ofPath ⟨.here, ["b.m".toList]⟩, .ofText "a.m/".toList] := by
      decide
    obtain ⟨byValue, -⟩ :=
      (dropIgnored_byBaseNames mixedReferences ["a.m".toList] []).2.1
        (.tuple [.string "a.m".toList]) .tuple
    rw [kept] at byValue
    exact byValue
  · exact
      (dropIgnored_byBaseNames mixedReferences ["a.m".toList, "a.m".toList] ["a.m".toList]).2.2.1
        (by simp)
  · have kept : dropIgnored ["b.m".toList, "a.m".toList] mixedReferences =
        [.ofText "a.m/".toList] := by
      decide
    have fewer : ["a.m".toList] ⊆ ["b.m".toList, "a.m".toList] := by
      simp
    rw [← kept]
    exact
      (dropIgnored_byBaseNames mixedReferences ["a.m".toList]
        ["b.m".toList, "a.m".toList]).2.2.2.2.2.2.1 fewer
  · obtain ⟨-, isRule, samePath⟩ :=
      (dropIgnored_byBaseNames mixedReferences ["a.m".toList] []).2.2.2.2.2.2.2.1
        "x/".toList "a.m".toList (by decide)
    have sameText := samePath (by decide) (by decide)
    exact sameText.trans (isRule.mpr (by simp))

end Selection

end LineTally
