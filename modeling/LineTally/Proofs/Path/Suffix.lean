import LineTally.Path.Basic
import Mathlib.Tactic.SplitIfs

namespace LineTally

/-!
# Replacing suffixes

A name keeps its suffix only if it is given the one that it has, and then it is the same
name.
-/

/-- A text without a mark has none if it is read from its end, either. -/
theorem Text.unmarked_reverse
    {mark : Char}
    {text : Text}
    (unmarked : mark ∉ text) :
    ∀ c ∈ text.reverse, decide (c ≠ mark) = true := by
  intro c member
  rw [decide_eq_true_eq]
  rintro rfl
  exact unmarked (List.mem_reverse.mp member)

/-- What follows the last mark of a text, if nothing after it is a mark. -/
theorem Text.afterLast_append
    {mark : Char}
    {after : Text}
    (unmarked : mark ∉ after)
    (before : Text) :
    Text.afterLast mark (before ++ mark :: after) = after := by
  rw [Text.afterLast, List.reverse_append, List.reverse_cons, List.append_assoc,
    List.takeWhile_append_of_pos (Text.unmarked_reverse unmarked)]
  simp

namespace Path

/-- To replace the suffix of a name by one gives the name itself exactly if it has this one. -/
theorem replaceSuffix_eq_self_iff
    {suffix ending name : Text}
    (dotted : suffix = '.' :: ending)
    (someEnding : ending ≠ [])
    (noDot : '.' ∉ ending) :
    replaceSuffix suffix name = name ↔ ∃ stem, stem ≠ [] ∧ name = stem ++ suffix := by
  subst dotted
  constructor
  · intro same
    rw [replaceSuffix] at same
    split_ifs at same with noSuffix
    · simp at same
    · simp only [Bool.or_eq_true, List.isEmpty_iff, not_or] at noSuffix
      exact ⟨_, noSuffix.2, same.symm⟩
  · rintro ⟨stem, someStem, rfl⟩
    have front : (stem ++ '.' :: ending).length - ending.length - 1 = stem.length := by
      rw [List.length_append, List.length_cons]
      omega
    have isStem : (stem ++ '.' :: ending).take stem.length = stem := List.take_left' rfl
    rw [replaceSuffix, Text.afterLast_append noDot, front, isStem]
    simp [someStem, someEnding]

/-- A name with another suffix has no characters but those of the name and of the suffix. -/
theorem mem_replaceSuffix
    {suffix name : Text}
    {c : Char}
    (member : c ∈ replaceSuffix suffix name) :
    c ∈ name ∨ c ∈ suffix := by
  rw [replaceSuffix] at member
  split_ifs at member
  · exact List.mem_append.mp member
  · exact (List.mem_append.mp member).imp_left List.mem_of_mem_take

/-- A path with another suffix is the same up to its last name, and this is replaced. -/
theorem exists_of_withSuffix?
    {suffix : Text}
    {path other : Path}
    (made : path.withSuffix? suffix = some other) :
    ∃ front last,
      path = ⟨path.anchor, front ++ [last]⟩ ∧
        other = ⟨path.anchor, front ++ [replaceSuffix suffix last]⟩ := by
  rw [withSuffix?] at made
  split at made
  next =>
    cases made
  next last endsWith =>
    obtain ⟨front, parts⟩ := List.getLast?_eq_some_iff.mp endsWith
    cases made
    refine ⟨front, last, ?_, ?_⟩
    · rw [← parts]
    · rw [parts, List.dropLast_concat]

end Path

end LineTally
