import LineTally.Text.Basic
import Mathlib.Data.List.Infix
import Mathlib.Data.List.TakeWhile

namespace LineTally.Text

/-!
# Padding

Blank characters around a text are padding: they go when the ends of the text are
trimmed, and what is left is the same with and without them.  A mark without blank
characters in it is never in the padding, so it is in a text exactly if it is in what is
left of it.
-/

/-- A text of nothing but blank characters. -/
def IsPadding
    (text : Text) :
    Prop :=
  ∀ c ∈ text, isBlank c = true

instance (text : Text) : Decidable (IsPadding text) :=
  List.decidableBAll _ text

/-- Nothing is left of padding. -/
theorem trimRight_of_isPadding
    {padding : Text}
    (isPadding : IsPadding padding) :
    trimRight padding = [] := by
  induction padding with
  | nil =>
      rfl
  | cons c rest inductionHypothesis =>
      obtain ⟨blank, restIsPadding⟩ := List.forall_mem_cons.mp isPadding
      rw [trimRight, inductionHypothesis restIsPadding]
      simp only [blank, if_true]

/-- Padding at the end of a text goes when its end is trimmed. -/
theorem trimRight_append
    (text : Text)
    {padding : Text}
    (isPadding : IsPadding padding) :
    trimRight (text ++ padding) = trimRight text := by
  induction text with
  | nil =>
      exact trimRight_of_isPadding isPadding
  | cons c rest inductionHypothesis =>
      rw [List.cons_append, trimRight, trimRight, inductionHypothesis]

/-- Padding on both sides of a text goes when the text is trimmed. -/
theorem trim_padded
    {before after : Text}
    (beforeIsPadding : IsPadding before)
    (text : Text)
    (afterIsPadding : IsPadding after) :
    trim (before ++ text ++ after) = trim text := by
  rw [trim, trim, List.append_assoc, List.dropWhile_append_of_pos beforeIsPadding,
    List.dropWhile_append]
  split_ifs with onlyBlanks
  · -- Nothing is left of the text, so the padding behind it goes with the rest.
    have afterGone : after.dropWhile isBlank = [] := by
      rw [List.dropWhile_eq_nil_iff]
      exact afterIsPadding
    rw [List.isEmpty_iff.mp onlyBlanks, afterGone]
  · exact trimRight_append _ afterIsPadding

/-- A text is what is left of it when its end is trimmed, and padding. -/
theorem exists_eq_trimRight_append
    (text : Text) :
    ∃ padding, IsPadding padding ∧ text = trimRight text ++ padding := by
  induction text with
  | nil =>
      exact ⟨[], by simp [IsPadding], rfl⟩
  | cons c rest inductionHypothesis =>
      obtain ⟨padding, isPadding, shape⟩ := inductionHypothesis
      rw [trimRight]
      split
      next nothingLeft =>
        rw [nothingLeft, List.nil_append] at shape
        subst shape
        split_ifs with blank
        · exact ⟨c :: rest, List.forall_mem_cons.mpr ⟨blank, isPadding⟩, rfl⟩
        · exact ⟨rest, isPadding, rfl⟩
      next =>
        exact ⟨padding, isPadding, congrArg (c :: ·) shape⟩

/-- A text is what is left of it when it is trimmed, with padding on both sides. -/
theorem exists_eq_padded_trim
    (text : Text) :
    ∃ before after,
      IsPadding before ∧ IsPadding after ∧ text = before ++ trim text ++ after := by
  obtain ⟨after, afterIsPadding, shape⟩ := exists_eq_trimRight_append (text.dropWhile isBlank)
  refine ⟨text.takeWhile isBlank, after, ?_, afterIsPadding, ?_⟩
  · intro c member
    exact List.mem_takeWhile_imp member
  · rw [trim, List.append_assoc, ← shape, List.takeWhile_append_dropWhile]

/-- A mark without blank characters is not in padding before a text. -/
theorem infix_of_infix_padded
    {mark before text : Text}
    (solid : ∀ c ∈ mark, isBlank c = false)
    (isPadding : IsPadding before)
    (inPadded : mark <:+: before ++ text) :
    mark <:+: text := by
  induction before with
  | nil =>
      exact inPadded
  | cons b rest inductionHypothesis =>
      obtain ⟨blank, restIsPadding⟩ := List.forall_mem_cons.mp isPadding
      rcases List.infix_cons_iff.mp inPadded with isFirst | isLater
      · cases mark with
        | nil =>
            exact List.nil_infix
        | cons c others =>
            obtain ⟨rfl, _⟩ := List.cons_prefix_cons.mp isFirst
            cases blank.symm.trans (solid c List.mem_cons_self)
      · exact inductionHypothesis restIsPadding isLater

/-- A mark without blank characters is in a text exactly if it is in what is left of it. -/
theorem infix_trim_iff
    {mark : Text}
    (solid : ∀ c ∈ mark, isBlank c = false)
    (text : Text) :
    mark <:+: trim text ↔ mark <:+: text := by
  obtain ⟨before, after, beforeIsPadding, afterIsPadding, shape⟩ := exists_eq_padded_trim text
  constructor
  · intro inTrimmed
    rw [shape]
    exact inTrimmed.trans (List.infix_append before (trim text) after)
  · intro inText
    rw [shape, List.append_assoc] at inText
    have inFront : mark <:+: trim text ++ after :=
      infix_of_infix_padded solid beforeIsPadding inText
    -- The padding behind the text is before it when both are read from the end.
    rw [← List.reverse_infix, List.reverse_append] at inFront
    rw [← List.reverse_infix]
    apply infix_of_infix_padded _ _ inFront
    · intro c member
      exact solid c (List.mem_reverse.mp member)
    · intro c member
      exact afterIsPadding c (List.mem_reverse.mp member)

end LineTally.Text
