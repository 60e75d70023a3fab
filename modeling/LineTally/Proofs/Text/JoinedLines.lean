import LineTally.Proofs.Text.Lines

namespace LineTally.Text

/-!
# Lines taken apart and joined

Lines without line feeds that are ended one after the other are the lines of the whole, and
the last of them need not be ended if it has characters.  The other way round the lines of
a text have no line feeds, and joined by line feeds they are the text again, but for one line
feed at its end.  So line feeds are all that is between lines: each of them ends one, and no
other character ends a line or belongs to none.
-/

/-- The text without the line feed at its end, if there is one. -/
def withoutLastLineFeed
    (text : Text) :
    Text :=
  if text.getLast? = some '\n' then text.dropLast else text

/-- What is at the end of a text does not depend on its first character. -/
theorem withoutLastLineFeed_cons
    (c : Char)
    {rest : Text}
    (notEmpty : rest ≠ []) :
    withoutLastLineFeed (c :: rest) = c :: withoutLastLineFeed rest := by
  obtain ⟨next, later, rfl⟩ := List.exists_cons_of_ne_nil notEmpty
  rw [withoutLastLineFeed, withoutLastLineFeed, List.getLast?_cons_cons, List.dropLast_cons_cons]
  split_ifs <;> rfl

/-- A line without a line feed is the only line of its text, unless it is empty. -/
theorem lines_of_notMem
    {line : Text}
    (noLineFeed : '\n' ∉ line)
    (notEmpty : line ≠ []) :
    lines line = [line] := by
  rw [lines, List.splitOn_eq_singleton noLineFeed, List.getLast?_singleton, if_neg]
  simpa using notEmpty

/-- The last line need not be ended if it has characters. -/
theorem lines_of_lastOpen
    {ended : List Text}
    (noLineFeeds : ∀ line ∈ ended, '\n' ∉ line)
    {last : Text}
    (isLast : ended.getLast? = some last)
    (notEmpty : last ≠ []) :
    lines (ended.flatMap fun line => line ++ ['\n']).dropLast = ended := by
  induction ended with
  | nil =>
      cases isLast
  | cons line rest inductionHypothesis =>
      obtain ⟨noLineFeed, restNoLineFeeds⟩ := List.forall_mem_cons.mp noLineFeeds
      cases rest with
      | nil =>
          cases isLast
          rw [List.flatMap_singleton, List.dropLast_concat, lines_of_notMem noLineFeed notEmpty]
      | cons next later =>
          have someText : (next :: later).flatMap (fun line => line ++ ['\n']) ≠ [] := by
            simp
          rw [List.getLast?_cons_cons] at isLast
          rw [List.flatMap_cons, List.append_assoc, List.singleton_append,
            List.dropLast_append_cons, List.dropLast_cons_of_ne_nil someText,
            lines_append_lineFeed noLineFeed, inductionHypothesis restNoLineFeeds isLast]

/-- Every character of a text but its line feeds is in its lines, in order, and nothing else is. -/
theorem flatten_lines
    (text : Text) :
    text.lines.flatten = text.filter (· ≠ '\n') := by
  induction text with
  | nil =>
      rfl
  | cons c rest inductionHypothesis =>
      by_cases lineFeed : c = '\n'
      · subst lineFeed
        rw [lines_lineFeed_cons, List.flatten_cons, List.nil_append, inductionHypothesis,
          List.filter_cons_of_neg (by simp)]
      · rw [lines_char_cons lineFeed, List.filter_cons_of_pos (by simpa using lineFeed),
          ← inductionHypothesis]
        cases lines rest <;> rfl

/-- No line of a text has a line feed in it. -/
theorem lineFeed_notMem_of_mem_lines
    {text line : Text}
    (isLine : line ∈ text.lines) :
    '\n' ∉ line := by
  intro member
  have inText : '\n' ∈ text.filter (· ≠ '\n') := by
    rw [← flatten_lines]
    exact List.mem_flatten_of_mem isLine member
  simp at inText

/-- Joined by line feeds the lines of a text are the text, but for one line feed at its end. -/
theorem intercalate_lines
    (text : Text) :
    ['\n'].intercalate text.lines = withoutLastLineFeed text := by
  induction text with
  | nil =>
      rfl
  | cons c rest inductionHypothesis =>
      by_cases noRest : rest = []
      · subst noRest
        by_cases lineFeed : c = '\n'
        · subst lineFeed
          rfl
        · rw [lines_char_cons lineFeed, withoutLastLineFeed, if_neg (by simpa using lineFeed)]
          rfl
      · -- A text with a character has a line already, before which the first character stands.
        obtain ⟨line, more, split⟩ :=
          List.exists_cons_of_ne_nil (mt lines_eq_nil_iff.mp noRest)
        rw [withoutLastLineFeed_cons c noRest, ← inductionHypothesis, split]
        by_cases lineFeed : c = '\n'
        · subst lineFeed
          rw [lines_lineFeed_cons, split, List.intercalate_cons_cons]
          rfl
        · rw [lines_char_cons lineFeed, split, consLine]
          cases more with
          | nil =>
              rfl
          | cons next later =>
              rw [List.intercalate_cons_cons, List.intercalate_cons_cons]
              rfl

/--
Lines without line feeds are the lines of the text in which each of them is ended, and of
this text without its last line feed if the last of them has characters.  The lines of any
text have no line feeds and are, joined by line feeds, the text without one line feed at its
end.  There is one for each line feed and one for characters after the last of them, and all
other characters are in them.
-/
theorem lines_inverse_joining :
    (∀ ended : List Text, (∀ line ∈ ended, '\n' ∉ line) →
        lines (ended.flatMap fun line => line ++ ['\n']) = ended ∧
          ∀ last, ended.getLast? = some last → last ≠ [] →
            lines (ended.flatMap fun line => line ++ ['\n']).dropLast = ended) ∧
      ∀ text : Text,
        (∀ line ∈ text.lines, '\n' ∉ line) ∧
          ['\n'].intercalate text.lines =
            (if text.getLast? = some '\n' then text.dropLast else text) ∧
          text.lines.length =
            text.count '\n' + (if text ≠ [] ∧ text.getLast? ≠ some '\n' then 1 else 0) ∧
          text.lines.flatten = text.filter (· ≠ '\n') := by
  constructor
  · intro ended noLineFeeds
    refine ⟨lines_of_ended noLineFeeds, ?_⟩
    intro last isLast notEmpty
    exact lines_of_lastOpen noLineFeeds isLast notEmpty
  · intro text
    refine ⟨?_, intercalate_lines text, length_lines text, flatten_lines text⟩
    intro line isLine
    exact lineFeed_notMem_of_mem_lines isLine

/-- Lines with other separators in them, an empty one and one that is not ended. -/
def separatedLines : List Text :=
  ["a\r\x0cb".toList, [], ['\u0085', '\u2028']]

/-- Other separators stay in their lines, whether the last of these is ended or not. -/
theorem lines_inverse_joining_separatedLines :
    lines "a\r\x0cb\n\n\u0085\u2028\n".toList = separatedLines ∧
      lines "a\r\x0cb\n\n\u0085\u2028".toList = separatedLines := by
  obtain ⟨ended, lastOpen⟩ := lines_inverse_joining.1 separatedLines (by decide)
  exact ⟨ended, lastOpen ['\u0085', '\u2028'] rfl (by decide)⟩

end LineTally.Text
