import LineTally.Proofs.Path.Suffix
import LineTally.Proofs.Path.Text
import Mathlib.Data.List.TakeWhile

namespace LineTally

/-!
# Base names

The base name of a text is what follows its last slash.  It is the last name of the path
that the text stands for, unless the text ends like that of a folder: with a slash, or
with a single dot as its last part.
-/

namespace Text

/-- A text with a mark is what is before the last one, the mark and what follows. -/
theorem exists_eq_append_of_mem
    {mark : Char}
    {text : Text}
    (marked : mark ∈ text) :
    ∃ before after, text = before ++ mark :: after ∧ mark ∉ after := by
  obtain ⟨after, before, reversed, unmarked⟩ :=
    List.eq_append_cons_of_mem (List.mem_reverse.mpr marked)
  refine ⟨before.reverse, after.reverse, ?_, mt List.mem_reverse.mp unmarked⟩
  rw [← List.reverse_reverse text, reversed]
  simp

/-- The part after the last mark of a text without one is all of it. -/
theorem afterLast_of_notMem
    {mark : Char}
    {text : Text}
    (unmarked : mark ∉ text) :
    afterLast mark text = text := by
  rw [afterLast, List.takeWhile_eq_self_iff.mpr (unmarked_reverse unmarked),
    List.reverse_reverse]

end Text

namespace Path

/-- A text that ends with a slash, or with a single dot after the last one. -/
def EndsLikeFolder
    (text : Text) :
    Prop :=
  Text.afterLast '/' text = [] ∨ Text.afterLast '/' text = ['.']

instance (text : Text) : Decidable (EndsLikeFolder text) :=
  inferInstanceAs (Decidable (_ ∨ _))

/-- Texts with a slash between them have the names of both. -/
theorem names_append_slash
    (before after : Text) :
    names (before ++ '/' :: after) = names before ++ names after := by
  rw [names, List.splitOn, List.splitOnP_append_cons before after (by simp), List.filter_append]
  rfl

/-- A text without a slash is its own only name, unless it is empty or a single dot. -/
theorem names_of_notMem
    {text : Text}
    (noSlash : '/' ∉ text)
    (notEmpty : text ≠ [])
    (notDot : text ≠ ['.']) :
    names text = [text] := by
  rw [names, List.splitOn_eq_singleton noSlash]
  simp [notEmpty, notDot]

/-- Unless it ends like that of a folder, the base name of a text is the name of its path. -/
theorem name_ofText
    {text : Text}
    (plain : ¬ EndsLikeFolder text) :
    (ofText text).name = Text.afterLast '/' text := by
  rw [EndsLikeFolder, not_or] at plain
  by_cases slash : '/' ∈ text
  · obtain ⟨before, after, rfl, noSlash⟩ := Text.exists_eq_append_of_mem slash
    rw [Text.afterLast_append noSlash] at plain ⊢
    rw [name, ofText, names_append_slash, names_of_notMem noSlash plain.1 plain.2,
      List.getLast?_concat, Option.getD_some]
  · rw [Text.afterLast_of_notMem slash] at plain ⊢
    rw [name, ofText, names_of_notMem slash plain.1 plain.2]
    rfl

/-- The text of a path in its normal form with names ends with the last of these. -/
theorem afterLast_toText
    {path : Path}
    (normal : path.IsNormal)
    (someParts : path.parts ≠ []) :
    Text.afterLast '/' path.toText = path.name ∧ ¬ EndsLikeFolder path.toText := by
  obtain ⟨anchor, parts⟩ := path
  obtain ⟨front, last, rfl⟩ := (List.eq_nil_or_concat' parts).resolve_left someParts
  obtain ⟨notEmpty, noSlash, notDot⟩ :=
    normal last (List.mem_append_right _ List.mem_cons_self)
  have isName : (⟨anchor, front ++ [last]⟩ : Path).name = last := by
    rw [name, List.getLast?_concat, Option.getD_some]
  have endsWith : Text.afterLast '/' (⟨anchor, front ++ [last]⟩ : Path).toText = last := by
    cases front with
    | nil =>
        cases anchor with
        | here =>
            simpa [toText, anchorText] using Text.afterLast_of_notMem noSlash
        | root =>
            simpa [toText, anchorText] using Text.afterLast_append noSlash []
        | doubleRoot =>
            simpa [toText, anchorText] using Text.afterLast_append noSlash ['/']
    | cons first rest =>
        have joined := intercalate_append (List.cons_ne_nil first rest) (List.cons_ne_nil last [])
        rw [List.intercalate_singleton, List.append_assoc, List.singleton_append] at joined
        have shape :
            (⟨anchor, first :: rest ++ [last]⟩ : Path).toText =
              (anchorText anchor ++ ['/'].intercalate (first :: rest)) ++ '/' :: last := by
          rw [List.append_assoc, ← joined]
          cases anchor <;> rfl
        rw [shape, Text.afterLast_append noSlash]
  refine ⟨endsWith.trans isName.symm, ?_⟩
  rw [EndsLikeFolder, endsWith, not_or]
  exact ⟨notEmpty, notDot⟩

end Path

end LineTally
