import LineTally.Path.Basic
import Mathlib.Data.List.Basic
import Mathlib.Logic.Function.Basic
import Mathlib.Tactic.SplitIfs

namespace LineTally.Path

/-!
# Paths and their texts

A path below a folder is known from the names that lead to it, and if these are proper
names, from its text alone.  A path in its normal form is what its text stands for.
-/

/-- The text of a path in its normal form is not empty. -/
theorem toText_ofText_ne_nil
    (text : Text) :
    (ofText text).toText ≠ [] := by
  have named : ∀ name ∈ names text, name ≠ [] := by
    intro name member
    rw [names, List.mem_filter] at member
    simp only [Bool.and_eq_true, Bool.not_eq_true', List.isEmpty_eq_false_iff] at member
    exact member.2.1
  rw [ofText]
  generalize names text = parts at named ⊢
  cases parts with
  | nil =>
      cases anchorOf text <;> exact List.cons_ne_nil _ _
  | cons first rest =>
      have notEmpty := named first List.mem_cons_self
      cases anchorOf text <;> cases rest <;> simp [toText, anchorText, notEmpty]

/-- Names below a folder are known from the path that they lead to. -/
theorem descend_injective
    (folder : Path) :
    Function.Injective folder.descend := by
  intro names others same
  rw [descend, descend, Path.mk.injEq] at same
  exact List.append_cancel_left same.2

/-- Names joined below other names follow them after a slash. -/
theorem intercalate_append
    {front names : List Text}
    (someFront : front ≠ [])
    (someNames : names ≠ []) :
    ['/'].intercalate (front ++ names) =
      ['/'].intercalate front ++ ['/'] ++ ['/'].intercalate names := by
  induction front with
  | nil =>
      exact (someFront rfl).elim
  | cons name rest inductionHypothesis =>
      rw [List.cons_append, List.intercalate_cons_of_ne_nil (by simp [someNames])]
      cases rest with
      | nil =>
          simp
      | cons next rest =>
          rw [inductionHypothesis (List.cons_ne_nil _ _), List.intercalate_cons_cons]
          simp

/-- A character other than a slash is in joined names if it is in one of them. -/
theorem mem_intercalate_iff
    {c : Char}
    (notSlash : c ≠ '/')
    {names : List Text} :
    c ∈ ['/'].intercalate names ↔ ∃ name ∈ names, c ∈ name := by
  induction names with
  | nil =>
      simp
  | cons name rest inductionHypothesis =>
      cases rest with
      | nil =>
          simp
      | cons next rest =>
          rw [List.intercalate_cons_cons, List.mem_append, List.mem_append, inductionHypothesis,
            List.mem_singleton]
          simp only [List.exists_mem_cons_iff, notSlash, or_false]

/-- All paths below a folder have a text that starts in the same way. -/
theorem exists_toText_descend_eq
    (folder : Path) :
    ∃ front : Text, ∀ names : List Text, names ≠ [] →
      (folder.descend names).toText = front ++ ['/'].intercalate names := by
  obtain ⟨anchor, parts⟩ := folder
  cases parts with
  | nil =>
      refine ⟨anchorText anchor, ?_⟩
      intro names someNames
      obtain ⟨name, rest, rfl⟩ := List.exists_cons_of_ne_nil someNames
      cases anchor <;> rfl
  | cons first rest =>
      refine ⟨anchorText anchor ++ (['/'].intercalate (first :: rest) ++ ['/']), ?_⟩
      intro names someNames
      rw [List.append_assoc, ← intercalate_append (List.cons_ne_nil _ _) someNames]
      cases anchor <;> rfl

/-- Proper names below a folder are known from the text of the path that they lead to. -/
theorem toText_descend_inj
    {folder : Path}
    {names others : List Text}
    (someNames : names ≠ [])
    (someOthers : others ≠ [])
    (named : ∀ name ∈ names, '/' ∉ name)
    (othersNamed : ∀ name ∈ others, '/' ∉ name)
    (same : (folder.descend names).toText = (folder.descend others).toText) :
    names = others := by
  obtain ⟨front, startsSame⟩ := exists_toText_descend_eq folder
  rw [startsSame names someNames, startsSame others someOthers] at same
  have sameBelow := List.append_cancel_left same
  rw [← List.splitOn_intercalate '/' named someNames, sameBelow,
    List.splitOn_intercalate '/' othersNamed someOthers]

/-- A path as it is made from a text: without empty names and single dots. -/
def IsNormal
    (path : Path) :
    Prop :=
  ∀ name ∈ path.parts, name ≠ [] ∧ '/' ∉ name ∧ name ≠ ['.']

/-- No part between the slashes of a text has a slash in it. -/
theorem slash_not_mem_of_mem_splitOn
    {text part : Text}
    (member : part ∈ text.splitOn '/') :
    '/' ∉ part := by
  induction text generalizing part with
  | nil =>
      rw [List.splitOn_nil, List.mem_singleton] at member
      simp [member]
  | cons c rest inductionHypothesis =>
      rw [List.splitOn_cons_eq_if_modifyHead] at member
      split_ifs at member with isSlash
      · rcases List.mem_cons.mp member with rfl | later
        · simp
        · exact inductionHypothesis later
      · obtain ⟨first, others, split⟩ :=
          List.exists_cons_of_ne_nil (List.splitOn_ne_nil '/' rest)
        rw [split, List.modifyHead_cons] at member
        rw [split] at inductionHypothesis
        rcases List.mem_cons.mp member with rfl | later
        · have notSlash : '/' ≠ c := fun same => isSlash (beq_iff_eq.mpr same.symm)
          rw [List.mem_cons, not_or]
          exact ⟨notSlash, inductionHypothesis List.mem_cons_self⟩
        · exact inductionHypothesis (List.mem_cons_of_mem _ later)

/-- A path that is made from a text is in its normal form. -/
theorem isNormal_ofText
    (text : Text) :
    (ofText text).IsNormal := by
  intro name member
  obtain ⟨isPart, isName⟩ := List.mem_filter.mp member
  simp only [Bool.and_eq_true, Bool.not_eq_true', List.isEmpty_eq_false_iff,
    decide_eq_true_iff] at isName
  exact ⟨isName.1, slash_not_mem_of_mem_splitOn isPart, isName.2⟩

/-- The names of a path in its normal form are those of its text. -/
theorem names_intercalate
    {parts : List Text}
    (someParts : parts ≠ [])
    (normal : ∀ name ∈ parts, name ≠ [] ∧ '/' ∉ name ∧ name ≠ ['.']) :
    names (['/'].intercalate parts) = parts := by
  rw [names, List.splitOn_intercalate '/' (fun name member => (normal name member).2.1) someParts,
    List.filter_eq_self]
  intro name member
  obtain ⟨notEmpty, _, notDot⟩ := normal name member
  simp [notEmpty, notDot]

/-- A slash in front of a text adds no name. -/
theorem names_slash_cons
    (text : Text) :
    names ('/' :: text) = names text := by
  rw [names, List.splitOn_cons_eq_if_modifyHead, if_pos (by simp),
    List.filter_cons_of_neg (by simp), names]

/-- A path in its normal form is the one that its text stands for. -/
theorem ofText_toText
    {path : Path}
    (normal : path.IsNormal) :
    ofText path.toText = path := by
  obtain ⟨anchor, parts⟩ := path
  cases parts with
  | nil =>
      cases anchor <;> decide
  | cons first rest =>
      have isNames := names_intercalate (List.cons_ne_nil first rest) normal
      obtain ⟨notEmpty, noSlash, _⟩ := normal first List.mem_cons_self
      obtain ⟨c, more, rfl⟩ := List.exists_cons_of_ne_nil notEmpty
      have notSlash : c ≠ '/' := by
        rintro rfl
        exact noSlash List.mem_cons_self
      obtain ⟨others, starts⟩ :
          ∃ others, ['/'].intercalate ((c :: more) :: rest) = c :: others := by
        cases rest with
        | nil =>
            exact ⟨more, by simp⟩
        | cons next rest =>
            exact ⟨_, by rw [List.intercalate_cons_cons, List.cons_append, List.cons_append]⟩
      rw [starts] at isNames
      cases anchor with
      | here =>
          simp [toText, anchorText, starts, ofText, isNames, anchorOf, notSlash]
      | root =>
          simp [toText, anchorText, starts, ofText, isNames, anchorOf, notSlash, names_slash_cons]
      | doubleRoot =>
          simp [toText, anchorText, starts, ofText, isNames, anchorOf, notSlash, names_slash_cons]

end LineTally.Path
