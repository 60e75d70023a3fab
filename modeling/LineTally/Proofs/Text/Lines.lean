import LineTally.Text.Lines
import Mathlib.Tactic.SplitIfs

namespace LineTally.Text

/-!
# The lines of a text, character by character

A line feed at the start of a text ends an empty line; any other character belongs
to the line that it stands before, or is a line of its own if there is none.  How
many lines there are follows: one for each line feed, and one more for characters
after the last of them.
-/

/-- The empty text has no lines. -/
theorem lines_nil : lines [] = [] :=
  rfl

/-- A line feed at the start ends an empty line. -/
theorem lines_lineFeed_cons
    (rest : Text) :
    lines ('\n' :: rest) = [] :: lines rest := by
  obtain ⟨piece, pieces, split⟩ :=
    List.exists_cons_of_ne_nil (List.splitOn_ne_nil '\n' rest)
  have splitCons : ('\n' :: rest).splitOn '\n' = [] :: piece :: pieces := by
    rw [List.splitOn_eq_splitOnP] at split ⊢
    rw [List.splitOnP_cons_eq_if_modifyHead, split, if_pos (by decide)]
  simp only [lines, splitCons, split, List.getLast?_cons_cons, List.dropLast_cons_cons]
  split_ifs <;> rfl

/-- The line that a character other than a line feed stands before, with that character. -/
def consLine
    (c : Char) :
    List Text → List Text
  | [] => [[c]]
  | line :: more => (c :: line) :: more

/-- Any other character at the start belongs to the first line. -/
theorem lines_char_cons
    {c : Char}
    (notLineFeed : c ≠ '\n')
    (rest : Text) :
    lines (c :: rest) = consLine c (lines rest) := by
  obtain ⟨piece, pieces, split⟩ :=
    List.exists_cons_of_ne_nil (List.splitOn_ne_nil '\n' rest)
  have splitCons : (c :: rest).splitOn '\n' = (c :: piece) :: pieces := by
    rw [List.splitOn_eq_splitOnP] at split ⊢
    rw [List.splitOnP_cons_eq_if_modifyHead, split, if_neg (by simpa using notLineFeed)]
    rfl
  simp only [lines, splitCons, split]
  cases pieces with
  | nil =>
      cases piece <;> simp [consLine]
  | cons next pieces =>
      simp only [List.getLast?_cons_cons, List.dropLast_cons_cons]
      split_ifs <;> rfl

/-- Only the empty text has no lines. -/
theorem lines_eq_nil_iff
    {text : Text} :
    lines text = [] ↔ text = [] := by
  cases text with
  | nil =>
      simp [lines_nil]
  | cons c rest =>
      by_cases lineFeed : c = '\n'
      · subst lineFeed
        simp [lines_lineFeed_cons]
      · rw [lines_char_cons lineFeed]
        cases lines rest <;> simp [consLine]

/-- Whether a text has characters after its last line feed. -/
def HasOpenLine
    (text : Text) :
    Prop :=
  text ≠ [] ∧ text.getLast? ≠ some '\n'

instance (text : Text) : Decidable (HasOpenLine text) :=
  inferInstanceAs (Decidable (_ ∧ _))

/-- Only its end counts for whether the last line of a text is open. -/
theorem hasOpenLine_cons_cons
    (c next : Char)
    (rest : Text) :
    HasOpenLine (c :: next :: rest) ↔ HasOpenLine (next :: rest) := by
  simp [HasOpenLine]

/-- There is a line for each line feed, and one for characters after the last of them. -/
theorem length_lines
    (text : Text) :
    text.lines.length = text.count '\n' + if HasOpenLine text then 1 else 0 := by
  induction text with
  | nil =>
      rfl
  | cons c rest inductionHypothesis =>
      by_cases lineFeed : c = '\n'
      · subst lineFeed
        rw [lines_lineFeed_cons, List.length_cons, inductionHypothesis, List.count_cons_self]
        cases rest with
        | nil =>
            simp [HasOpenLine]
        | cons next rest =>
            simp only [hasOpenLine_cons_cons]
            omega
      · rw [lines_char_cons lineFeed, List.count_cons_of_ne lineFeed]
        cases rest with
        | nil =>
            simp [consLine, HasOpenLine, lineFeed, lines_nil]
        | cons next rest =>
            simp only [hasOpenLine_cons_cons, ← inductionHypothesis]
            -- A text with a character has a line already, so the first line only grows.
            cases found : lines (next :: rest) with
            | nil =>
                cases lines_eq_nil_iff.mp found
            | cons line more =>
                rfl

/-- A line that is ended comes before the lines after it. -/
theorem lines_append_lineFeed
    {line : Text}
    (noLineFeed : '\n' ∉ line)
    (rest : Text) :
    lines (line ++ '\n' :: rest) = line :: lines rest := by
  induction line with
  | nil =>
      exact lines_lineFeed_cons rest
  | cons c line inductionHypothesis =>
      have notFirst : c ≠ '\n' := (List.ne_of_not_mem_cons noLineFeed).symm
      rw [List.cons_append, lines_char_cons notFirst,
        inductionHypothesis (List.not_mem_of_not_mem_cons noLineFeed)]
      rfl

/-- Lines that are ended one after the other are the lines of the whole. -/
theorem lines_of_ended
    {ended : List Text}
    (noLineFeeds : ∀ line ∈ ended, '\n' ∉ line) :
    lines (ended.flatMap fun line => line ++ ['\n']) = ended := by
  induction ended with
  | nil =>
      rfl
  | cons line rest inductionHypothesis =>
      obtain ⟨noLineFeed, restNoLineFeeds⟩ := List.forall_mem_cons.mp noLineFeeds
      rw [List.flatMap_cons, List.append_assoc, List.singleton_append,
        lines_append_lineFeed noLineFeed, inductionHypothesis restNoLineFeeds]

/-- After a text without an open line the lines of another one follow as they are. -/
theorem lines_append
    {first : Text}
    (ended : ¬ HasOpenLine first)
    (second : Text) :
    lines (first ++ second) = lines first ++ lines second := by
  induction first with
  | nil =>
      rfl
  | cons c rest inductionHypothesis =>
      by_cases lineFeed : c = '\n'
      · subst lineFeed
        have restEnded : ¬ HasOpenLine rest := by
          cases rest with
          | nil =>
              simp [HasOpenLine]
          | cons next rest =>
              rwa [hasOpenLine_cons_cons] at ended
        rw [List.cons_append, lines_lineFeed_cons, lines_lineFeed_cons,
          inductionHypothesis restEnded, List.cons_append]
      · cases rest with
        | nil =>
            exact (ended (by simp [HasOpenLine, lineFeed])).elim
        | cons next rest =>
            rw [hasOpenLine_cons_cons] at ended
            obtain ⟨line, more, split⟩ :=
              List.exists_cons_of_ne_nil (mt lines_eq_nil_iff.mp (List.cons_ne_nil next rest))
            rw [List.cons_append, lines_char_cons lineFeed, lines_char_cons lineFeed,
              inductionHypothesis ended, split]
            rfl

end LineTally.Text
