import LineTally.Proofs.Text.Lines
import LineTally.Proofs.Text.Padding
import Mathlib.Data.List.Forall2

namespace LineTally

/-!
# Line ends

A text without carriage returns can be written with any of three line ends.  Unifying
the line ends gives the text back.  Without that, the pair of both characters leaves a
carriage return at the end of each line that it ends, which is padding there.
-/

/-- How the end of a line is written. -/
inductive LineEnd where
  | lineFeed
  | carriageReturn
  /-- A carriage return and a line feed. -/
  | both
  deriving Repr, DecidableEq

namespace LineEnd

/-- The characters that end a line. -/
def text :
    LineEnd → Text
  | .lineFeed => ['\n']
  | .carriageReturn => ['\r']
  | .both => ['\r', '\n']

end LineEnd

namespace Text

/-- A text with each of its line feeds written as the given line end. -/
def withLineEnds
    (lineEnd : LineEnd)
    (text : Text) :
    Text :=
  text.flatMap fun c => if c = '\n' then lineEnd.text else [c]

section WithLineEnds

variable (lineEnd : LineEnd)

/-- A line feed is written as the line end. -/
theorem withLineEnds_lineFeed_cons
    (rest : Text) :
    withLineEnds lineEnd ('\n' :: rest) = lineEnd.text ++ withLineEnds lineEnd rest := by
  rw [withLineEnds, List.flatMap_cons, if_pos rfl, withLineEnds]

/-- Any other character is written as it is. -/
theorem withLineEnds_char_cons
    {c : Char}
    (notLineFeed : c ≠ '\n')
    (rest : Text) :
    withLineEnds lineEnd (c :: rest) = c :: withLineEnds lineEnd rest := by
  rw [withLineEnds, List.flatMap_cons, if_neg notLineFeed, withLineEnds, List.singleton_append]

/-- No line feed is left if lines end with carriage returns. -/
theorem lineFeed_notMem_withLineEnds
    (text : Text) :
    '\n' ∉ withLineEnds .carriageReturn text := by
  rw [withLineEnds, List.mem_flatMap]
  rintro ⟨c, _, isWritten⟩
  split_ifs at isWritten with lineFeed
  · simp [LineEnd.text] at isWritten
  · exact lineFeed (List.mem_singleton.mp isWritten).symm

/-- No NUL is in a text because of its line ends. -/
theorem nul_notMem_withLineEnds
    {text : Text}
    (noNul : '\x00' ∉ text) :
    '\x00' ∉ withLineEnds lineEnd text := by
  rw [withLineEnds, List.mem_flatMap]
  rintro ⟨c, member, isWritten⟩
  split_ifs at isWritten
  · cases lineEnd <;> simp [LineEnd.text] at isWritten
  · exact noNul (List.mem_singleton.mp isWritten ▸ member)

end WithLineEnds

/-- A character other than a carriage return stays when line ends are unified. -/
theorem unifyLineEnds_char_cons
    {c : Char}
    (notReturn : c ≠ '\r')
    (rest : Text) :
    unifyLineEnds (c :: rest) = c :: unifyLineEnds rest := by
  rw [unifyLineEnds]
  · rw [if_neg notReturn]
  · intro _ isReturn
    exact (notReturn isReturn).elim

/-- A carriage return that no line feed follows becomes a line feed. -/
theorem unifyLineEnds_return_cons
    {rest : Text}
    (noLineFeed : '\n' ∉ rest) :
    unifyLineEnds ('\r' :: rest) = '\n' :: unifyLineEnds rest := by
  rw [unifyLineEnds]
  · rw [if_pos rfl]
  · rintro later _ rfl
    exact noLineFeed List.mem_cons_self

/-- The line ends of a text are unified to what they were written for. -/
theorem unifyLineEnds_withLineEnds
    (lineEnd : LineEnd)
    {text : Text}
    (noReturn : '\r' ∉ text) :
    (text.withLineEnds lineEnd).unifyLineEnds = text := by
  induction text with
  | nil =>
      rfl
  | cons c rest inductionHypothesis =>
      have notReturn : c ≠ '\r' := (List.ne_of_not_mem_cons noReturn).symm
      have restUnified := inductionHypothesis (List.not_mem_of_not_mem_cons noReturn)
      by_cases lineFeed : c = '\n'
      · subst lineFeed
        rw [withLineEnds_lineFeed_cons]
        cases lineEnd with
        | lineFeed =>
            rw [LineEnd.text, List.singleton_append, unifyLineEnds_char_cons (by decide),
              restUnified]
        | carriageReturn =>
            rw [LineEnd.text, List.singleton_append,
              unifyLineEnds_return_cons (lineFeed_notMem_withLineEnds rest), restUnified]
        | both =>
            rw [LineEnd.text, List.cons_append, List.singleton_append, unifyLineEnds, restUnified]
      · rw [withLineEnds_char_cons lineEnd lineFeed, unifyLineEnds_char_cons notReturn,
          restUnified]

/-- A line is another one with padding behind it. -/
def IsPaddedTo
    (line padded : Text) :
    Prop :=
  ∃ padding, IsPadding padding ∧ padded = line ++ padding

/-- A character before a line is before the padded line, too. -/
theorem forall₂_consLine
    {lines padded : List Text}
    (eachPadded : List.Forall₂ IsPaddedTo lines padded)
    (c : Char) :
    List.Forall₂ IsPaddedTo (consLine c lines) (consLine c padded) := by
  cases eachPadded with
  | nil =>
      exact .cons ⟨[], by simp [IsPadding], by simp⟩ .nil
  | cons first rest =>
      obtain ⟨padding, isPadding, rfl⟩ := first
      exact .cons ⟨padding, isPadding, rfl⟩ rest

/-- With both characters at its line ends a text has the same lines, but for padding. -/
theorem lines_withLineEnds_both
    (text : Text) :
    List.Forall₂ IsPaddedTo text.lines (text.withLineEnds .both).lines := by
  induction text with
  | nil =>
      exact .nil
  | cons c rest inductionHypothesis =>
      by_cases lineFeed : c = '\n'
      · subst lineFeed
        have notLineFeed : '\r' ≠ '\n' := by decide
        have returnIsPadding : IsPadding ['\r'] := by decide
        rw [withLineEnds_lineFeed_cons, LineEnd.text, List.cons_append, List.singleton_append,
          lines_char_cons notLineFeed, lines_lineFeed_cons, lines_lineFeed_cons]
        exact .cons ⟨_, returnIsPadding, rfl⟩ inductionHypothesis
      · rw [withLineEnds_char_cons .both lineFeed, lines_char_cons lineFeed,
          lines_char_cons lineFeed]
        exact forall₂_consLine inductionHypothesis c

end Text

end LineTally
