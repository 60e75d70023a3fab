import LineTally.Run.Selection
import Mathlib.Data.List.Basic
import Mathlib.Data.List.Infix
import Mathlib.Data.List.Nodup
import Mathlib.Data.List.Permutation

namespace LineTally.Selection

/-!
# Files by their extensions

A file is selected for the first of the extensions that its name ends with.  The files
of one extension come in the order in which they are given, after those of the
extensions before it.
-/

/-- Whether the name of a path ends with an extension. -/
def HasExtension
    (path : Path)
    (extension : Text) :
    Prop :=
  extension <:+ path.name

instance (path : Path) (extension : Text) : Decidable (HasExtension path extension) :=
  inferInstanceAs (Decidable (_ <:+ _))

/-- Whether a path has an extension, and none of those before it. -/
def HasFirst
    (path : Path)
    (before : List Text)
    (extension : Text) :
    Prop :=
  HasExtension path extension ∧ ∀ earlier ∈ before, ¬ HasExtension path earlier

instance (path : Path) (before : List Text) (extension : Text) :
    Decidable (HasFirst path before extension) :=
  inferInstanceAs (Decidable (_ ∧ _))

/-- The paths with each of the extensions that have none of the extensions before it. -/
def selected
    (extensions : List Text)
    (paths : List Path) :
    List Path :=
  extensions.zipIdx.flatMap fun (extension, index) =>
    paths.filter fun path => HasFirst path (extensions.take index) extension

variable
  {extensions : List Text}
  {paths : List Path}

/-- One more extension selects those of its paths that none of the others has selected. -/
theorem selected_concat
    (extensions : List Text)
    (last : Text)
    (paths : List Path) :
    selected (extensions ++ [last]) paths =
      selected extensions paths ++ paths.filter fun path => HasFirst path extensions last := by
  rw [selected, List.zipIdx_append, List.flatMap_append]
  congr 1
  · apply List.flatMap_congr
    rintro ⟨extension, index⟩ member
    obtain ⟨inside, _⟩ := List.mem_zipIdx' member
    simp only [List.take_append_of_le_length inside.le]
  · simp

/-- A list without repetitions has none to erase. -/
theorem eraseDups_of_nodup
    (distinct : paths.Nodup) :
    paths.eraseDups = paths := by
  induction distinct with
  | nil =>
      rfl
  | @cons path rest notLater _ inductionHypothesis =>
      have keepsAll : rest.filter (fun other => !other == path) = rest := by
        rw [List.filter_eq_self]
        intro other member
        simpa using (notLater other member).symm
      rw [List.eraseDups_cons, keepsAll, inductionHypothesis]

/-- Of different paths an extension adds those that no extension before it has selected. -/
theorem withExtensions_concat
    (distinct : paths.Nodup)
    (extensions : List Text)
    (last : Text) :
    withExtensions (extensions ++ [last]) paths =
      withExtensions extensions paths ++
        paths.filter fun path => HasFirst path extensions last := by
  rw [withExtensions, List.flatMap_append, List.flatMap_singleton, List.eraseDups_append,
    List.removeAll, List.filter_filter, eraseDups_of_nodup (distinct.filter _), withExtensions]
  congr 1
  apply List.filter_congr
  intro path member
  rw [Bool.eq_iff_iff, decide_eq_true_iff]
  simp only [Bool.and_eq_true, Bool.not_eq_true', List.elem_eq_contains,
    List.contains_eq_mem, decide_eq_false_iff_not, List.mem_flatMap, List.mem_filter,
    List.isSuffixOf_iff_suffix]
  constructor
  · rintro ⟨noneBefore, has⟩
    refine ⟨has, ?_⟩
    intro earlier isGiven hasEarlier
    exact noneBefore ⟨earlier, isGiven, member, hasEarlier⟩
  · rintro ⟨has, noneBefore⟩
    refine ⟨?_, has⟩
    rintro ⟨earlier, isGiven, _, hasEarlier⟩
    exact noneBefore earlier isGiven hasEarlier

/-- To erase what is repeated is to select every path for its first extension only. -/
theorem withExtensions_eq_selected
    (distinct : paths.Nodup)
    (extensions : List Text) :
    withExtensions extensions paths = selected extensions paths := by
  -- From the end, since only the last extension has all others before it.
  induction extensions using List.reverseRecOn with
  | nil =>
      rfl
  | append_singleton front last inductionHypothesis =>
      rw [withExtensions_concat distinct, selected_concat, inductionHypothesis]

/-- A path is selected if it has one of the extensions. -/
theorem mem_selected_iff
    {path : Path} :
    path ∈ selected extensions paths ↔
      path ∈ paths ∧ ∃ extension ∈ extensions, HasExtension path extension := by
  induction extensions using List.reverseRecOn with
  | nil =>
      simp [selected]
  | append_singleton front last inductionHypothesis =>
      rw [selected_concat, List.mem_append, inductionHypothesis, List.mem_filter,
        decide_eq_true_iff]
      constructor
      · rintro (⟨member, extension, isGiven, has⟩ | ⟨member, has, _⟩)
        · exact ⟨member, extension, List.mem_append_left _ isGiven, has⟩
        · exact ⟨member, last, List.mem_append_right _ List.mem_cons_self, has⟩
      · rintro ⟨member, extension, isGiven, has⟩
        by_cases before : ∃ earlier ∈ front, HasExtension path earlier
        · exact .inl ⟨member, before⟩
        · rcases List.mem_append.mp isGiven with isBefore | isLast
          · exact (before ⟨extension, isBefore, has⟩).elim
          · rw [List.mem_singleton.mp isLast] at has
            exact .inr ⟨member, has, fun earlier isBefore hasEarlier =>
              before ⟨earlier, isBefore, hasEarlier⟩⟩

/-- No path is selected twice. -/
theorem nodup_selected
    (distinct : paths.Nodup)
    (extensions : List Text) :
    (selected extensions paths).Nodup := by
  induction extensions using List.reverseRecOn with
  | nil =>
      exact .nil
  | append_singleton front last inductionHypothesis =>
      rw [selected_concat, List.nodup_append']
      refine ⟨inductionHypothesis, distinct.filter _, ?_⟩
      intro path before added
      obtain ⟨_, earlier, isGiven, has⟩ := mem_selected_iff.mp before
      obtain ⟨_, noneBefore⟩ := of_decide_eq_true (List.mem_filter.mp added).2
      exact noneBefore earlier isGiven has

/-- Another order of the extensions selects the same paths, in another order. -/
theorem selected_perm
    (distinct : paths.Nodup)
    {others : List Text}
    (reordered : extensions.Perm others) :
    (selected extensions paths).Perm (selected others paths) := by
  rw [List.perm_ext_iff_of_nodup (nodup_selected distinct _) (nodup_selected distinct _)]
  intro path
  simp only [mem_selected_iff, reordered.mem_iff]

/-- An extension that is given again selects nothing more. -/
theorem selected_repeated
    {front : List Text}
    {extension : Text}
    (isGiven : extension ∈ front)
    (back : List Text)
    (paths : List Path) :
    selected (front ++ extension :: back) paths = selected (front ++ back) paths := by
  induction back using List.reverseRecOn with
  | nil =>
      have nothing :
          (paths.filter fun path => HasFirst path front extension) = [] := by
        rw [List.filter_eq_nil_iff]
        intro path _ first
        exact (of_decide_eq_true first).2 extension isGiven (of_decide_eq_true first).1
      rw [selected_concat, nothing, List.append_nil, List.append_nil]
  | append_singleton back last inductionHypothesis =>
      have sameBefore (earlier : Text) :
          earlier ∈ front ++ extension :: back ↔ earlier ∈ front ++ back := by
        simp only [List.mem_append, List.mem_cons]
        constructor
        · rintro (before | rfl | after)
          · exact .inl before
          · exact .inl isGiven
          · exact .inr after
        · rintro (before | after)
          · exact .inl before
          · exact .inr (.inr after)
      rw [← List.cons_append, ← List.append_assoc, ← List.append_assoc, selected_concat,
        selected_concat, inductionHypothesis]
      congr 1
      apply List.filter_congr
      intro path _
      rw [decide_eq_decide]
      simp only [HasFirst, sameBefore]

/-- Of fewer paths fewer are selected, in the same order. -/
theorem selected_sublist
    {fewer : List Path}
    (sublist : fewer.Sublist paths)
    (extensions : List Text) :
    (selected extensions fewer).Sublist (selected extensions paths) := by
  induction extensions using List.reverseRecOn with
  | nil =>
      exact .slnil
  | append_singleton front last inductionHypothesis =>
      rw [selected_concat, selected_concat]
      exact inductionHypothesis.append (sublist.filter _)

end LineTally.Selection
