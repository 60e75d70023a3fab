import LineTally.Disk.Walk
import LineTally.Proofs.Text.Names

namespace LineTally

/-!
# The order of a walk

Names are in the order of the code points of their characters.  Of two files below a
folder the one that is in the folder itself comes first; two that are both in it, or
both below sub-folders of it, are in the order of their first names, and two below the
same sub-folder in the order they have there.  This orders files strictly, so a list
that follows it is known by its members.
-/

namespace Node

/-- Entries under different names are sorted in the order of their names. -/
theorem pairwise_sortByName
    {α : Type}
    {entries : List (Text × α)}
    (distinct : (entries.map Prod.fst).Nodup) :
    (sortByName entries).Pairwise fun first second => first.1 < second.1 := by
  have sorted :
      (sortByName entries).Pairwise fun first second => first.1.precedes second.1 = true := by
    apply List.pairwise_mergeSort
    · exact fun _ _ _ => Text.precedes_trans
    · exact fun _ _ => Text.precedes_total _ _
  have different :
      (sortByName entries).Pairwise fun first second => first.1 ≠ second.1 := by
    rw [← List.pairwise_map]
    exact ((List.mergeSort_perm entries _).map Prod.fst).nodup_iff.mpr distinct
  exact (sorted.and different).imp fun ⟨before, notSame⟩ => Text.lt_of_precedes before notSame

end Node

/--
The order of a walk, on the names that lead from its folder to its files: the files of a
folder come before those of its sub-folders, and otherwise names decide.
-/
inductive WalksBefore : List Text → List Text → Prop where
  | files {first second : Text}
      (before : first < second) :
      WalksBefore [first] [second]
  | fileFirst (file folder next : Text) (rest : List Text) :
      WalksBefore [file] (folder :: next :: rest)
  | folders {first second : Text}
      (before : first < second)
      (next other : Text)
      (rest otherRest : List Text) :
      WalksBefore (first :: next :: rest) (second :: other :: otherRest)
  | inside (folder : Text) {names others : List Text}
      (before : WalksBefore names others) :
      WalksBefore (folder :: names) (folder :: others)

namespace WalksBefore

/-- Only names of files are ordered, and these are not empty. -/
theorem ne_nil
    {names others : List Text}
    (before : WalksBefore names others) :
    names ≠ [] ∧ others ≠ [] := by
  cases before <;> simp

/-- Of two files only one comes before the other. -/
theorem asymm
    {names others : List Text}
    (before : WalksBefore names others) :
    ¬ WalksBefore others names := by
  induction before with
  | files before =>
      intro after
      cases after with
      | files after =>
          exact before.not_gt after
      | inside _ none =>
          exact none.ne_nil.1 rfl
  | fileFirst file folder next rest =>
      intro after
      cases after with
      | inside _ none =>
          exact none.ne_nil.2 rfl
  | folders before next other rest otherRest =>
      intro after
      cases after with
      | folders after =>
          exact before.not_gt after
      | inside =>
          exact lt_irrefl _ before
  | inside folder before inductionHypothesis =>
      intro after
      cases after with
      | files after =>
          exact lt_irrefl _ after
      | fileFirst =>
          exact before.ne_nil.2 rfl
      | folders after =>
          exact lt_irrefl _ after
      | inside _ after =>
          exact inductionHypothesis after

instance : Std.Irrefl WalksBefore :=
  ⟨fun _ before => before.asymm before⟩

instance : Std.Antisymm WalksBefore :=
  ⟨fun _ _ before after => (before.asymm after).elim⟩

/-- A list in the order of a walk has no file twice. -/
theorem nodup
    {walked : List (List Text)}
    (ordered : walked.Pairwise WalksBefore) :
    walked.Nodup := by
  refine ordered.imp ?_
  rintro names _ before rfl
  exact before.asymm before

end WalksBefore

end LineTally
