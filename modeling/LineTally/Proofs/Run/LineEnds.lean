import LineTally.Proofs.Charset.Strict
import LineTally.Proofs.Run.CountFiles
import LineTally.Proofs.Text.LineEnds

namespace LineTally

/-!
# Line ends and padding in counts

The counts of a text do not tell how its line ends are written or how its lines are
padded.  Two things see to that: line ends are unified when a file is read, and lines
are trimmed before they are looked at, so that a carriage return which stayed at the end
of a line is lost there.
-/

namespace Line

/-- Padding on both sides of a line does not show in its kind or the state after it. -/
theorem classify_padded
    (state : ScanState)
    {before after : Text}
    (beforeIsPadding : before.IsPadding)
    (line : Text)
    (afterIsPadding : after.IsPadding) :
    classify state (before ++ line ++ after) = classify state line := by
  rw [classify, classify, Text.trim_padded beforeIsPadding line afterIsPadding]

/-- A line and the same line with padding behind it are read alike. -/
theorem classify_of_isPaddedTo
    {line padded : Text}
    (isPadded : line.IsPaddedTo padded)
    (state : ScanState) :
    classify state padded = classify state line := by
  obtain ⟨padding, isPadding, rfl⟩ := isPadded
  have nothingBefore : Text.IsPadding [] := by simp [Text.IsPadding]
  exact classify_padded state nothingBefore line isPadding

/-- Lines and the same lines with padding behind them are read alike. -/
theorem scan_of_isPaddedTo
    {lines padded : List Text}
    (eachPadded : List.Forall₂ Text.IsPaddedTo lines padded)
    (state : ScanState) :
    scan state padded = scan state lines := by
  induction eachPadded generalizing state with
  | nil =>
      rfl
  | cons first _ inductionHypothesis =>
      rw [scan, scan, classify_of_isPaddedTo first, inductionHypothesis]

end Line

namespace Counts

/-- A carriage return before each line feed of a text does not change its counts. -/
theorem ofText_withLineEnds_both
    (text : Text) :
    ofText (text.withLineEnds .both) = ofText text := by
  rw [ofText, ofText, ofLines, ofLines,
    Line.scan_of_isPaddedTo text.lines_withLineEnds_both]

end Counts

namespace Counting

/-- A UTF-8 file of a text without NUL characters gets the counts of this text. -/
theorem countFile_of_encode
    {disk : Disk}
    {reference : FileRef}
    {text : Text}
    (noNul : '\x00' ∉ text)
    (found : disk.content? (pathOf reference) = some (Utf8.encode text)) :
    countFile disk usualCharset reference =
      ⟨[counted ⟨reference.toText, .ofText text.unifyLineEnds⟩],
        .ok ⟨reference.toText, .ofText text.unifyLineEnds⟩⟩ := by
  have noZero : 0 ∉ (Utf8.encode text).take 1024 :=
    fun zero => Utf8.zero_notMem_encode noNul (List.mem_of_mem_take zero)
  have read := textOf_usualCharset (pathOf reference).toText (Utf8.encode text)
  rw [Utf8.legible_encode] at read
  exact countFile_of_text found (hasNul_sample_eq_false noZero) read

/--
A UTF-8 file that holds a text without carriage returns and NUL characters gets the
counts of this text, and no warning, whichever line end its lines are written with.  The
text itself has the same counts if its lines are ended by both characters.  And each line
is read in every state as it is with padding around it.
-/
theorem lineEnds_and_padding_indifferent :
    (∀ (text : Text) (lineEnd : LineEnd) (disk : Disk) (reference : FileRef),
      '\r' ∉ text →
      '\x00' ∉ text →
      disk.content? (pathOf reference) = some (Utf8.encode (text.withLineEnds lineEnd)) →
      ∃ notes,
        countFile disk usualCharset reference =
            ⟨notes, .ok ⟨reference.toText, .ofText text⟩⟩ ∧
          warnings notes = []) ∧
      (∀ text : Text, Counts.ofText (text.withLineEnds .both) = Counts.ofText text) ∧
      ∀ (state : ScanState) (before line after : Text),
        before.IsPadding →
        after.IsPadding →
        Line.classify state (before ++ line ++ after) = Line.classify state line := by
  refine ⟨?_, Counts.ofText_withLineEnds_both, ?_⟩
  · intro text lineEnd disk reference noReturn noNul found
    have read := countFile_of_encode (Text.nul_notMem_withLineEnds lineEnd noNul) found
    rw [Text.unifyLineEnds_withLineEnds lineEnd noReturn] at read
    exact ⟨_, read, rfl⟩
  · intro state before line after beforeIsPadding afterIsPadding
    exact Line.classify_padded state beforeIsPadding line afterIsPadding

/-- A text with an open block, an empty line, and no line feed at its end. -/
def openText : Text :=
  "x=1;\n/* y\n\nz".toList

/-- A disk with one file for each line end. -/
def lineEndsDisk : Disk :=
  ⟨.folder
    [ ("lf.m".toList, .file (.bytes (Utf8.encode (openText.withLineEnds .lineFeed)))),
      ("cr.m".toList, .file (.bytes (Utf8.encode (openText.withLineEnds .carriageReturn)))),
      ("crlf.m".toList, .file (.bytes (Utf8.encode (openText.withLineEnds .both)))) ],
    []⟩

/-- The name of the file with a line end. -/
def nameFor :
    LineEnd → Text
  | .lineFeed => "lf.m".toList
  | .carriageReturn => "cr.m".toList
  | .both => "crlf.m".toList

/-- The three files have the counts of their text, and a tab before a line is no matter. -/
theorem lineEnds_and_padding_indifferent_openText :
    (∀ lineEnd,
      (countFile lineEndsDisk usualCharset (.ofText (nameFor lineEnd))).result =
        .ok ⟨nameFor lineEnd, ⟨1, 2, 1, 4⟩⟩) ∧
      Counts.ofText (openText.withLineEnds .both) = ⟨1, 2, 1, 4⟩ ∧
      Line.classify .inBlock "\tz*/ \r".toList = (.comment, .outside) := by
  have counts : Counts.ofText openText = ⟨1, 2, 1, 4⟩ := by decide +kernel
  refine ⟨?_, ?_, ?_⟩
  · intro lineEnd
    have found :
        lineEndsDisk.content? (pathOf (.ofText (nameFor lineEnd))) =
          some (Utf8.encode (openText.withLineEnds lineEnd)) := by
      cases lineEnd <;> decide +kernel
    obtain ⟨notes, read, _⟩ :=
      lineEnds_and_padding_indifferent.1 openText lineEnd lineEndsDisk _ (by decide)
        (by decide) found
    rw [read, counts]
    rfl
  · rw [lineEnds_and_padding_indifferent.2.1, counts]
  · have padded :=
      lineEnds_and_padding_indifferent.2.2 .inBlock "\t".toList "z*/".toList " \r".toList
        (by decide) (by decide)
    rw [show ("\t".toList ++ "z*/".toList ++ " \r".toList) = "\tz*/ \r".toList by decide]
      at padded
    rw [padded]
    decide

end Counting

end LineTally
