import LineTally.Proofs.Line.Inserted

namespace LineTally

/-!
# Texts in pieces

A text can be counted piece by piece, as long as no line goes from one piece on into the
next: each piece is read from the state that the pieces before it leave behind.  What a
piece comes to can also be told without this state, by telling it for both.  Such
summaries are put together as the pieces follow each other, and it does not matter which
of them are put together first.
-/

/-- What it comes to that some lines are read: the state after them, and their counts. -/
structure Passage where
  next : ScanState
  counts : Counts
  deriving Repr, DecidableEq

/-- The passage through a text from a state on. -/
def Passage.ofText
    (state : ScanState)
    (text : Text) :
    Passage where
  next := Line.stateAfter state text.lines
  counts := .ofLines state text.lines

/-- What a text comes to from each of the two states. -/
structure Summary where
  fromOutside : Passage
  fromBlock : Passage
  deriving Repr, DecidableEq

namespace Summary

/-- The passage from a state on. -/
def passage
    (summary : Summary) :
    ScanState → Passage
  | .outside => summary.fromOutside
  | .inBlock => summary.fromBlock

/-- The summary of a text by itself. -/
def ofText
    (text : Text) :
    Summary where
  fromOutside := .ofText .outside text
  fromBlock := .ofText .inBlock text

end Summary

/-- A passage that goes on through a text with the given summary. -/
def Passage.andThen
    (passage : Passage)
    (later : Summary) :
    Passage where
  next := (later.passage passage.next).next
  counts := passage.counts + (later.passage passage.next).counts

namespace Summary

/-- The summary of two texts, one after the other. -/
def andThen
    (first second : Summary) :
    Summary where
  fromOutside := first.fromOutside.andThen second
  fromBlock := first.fromBlock.andThen second

/-- A summary is known from its passages. -/
theorem eq_of_passage
    {first second : Summary}
    (same : ∀ state, first.passage state = second.passage state) :
    first = second := by
  cases first
  cases second
  rw [Summary.mk.injEq]
  exact ⟨same .outside, same .inBlock⟩

instance : Mul Summary := ⟨andThen⟩

instance : One Summary := ⟨ofText []⟩

/-- A passage through two texts goes through the first one and then through the second. -/
@[simp]
theorem passage_mul
    (first second : Summary)
    (state : ScanState) :
    (first * second).passage state = (first.passage state).andThen second := by
  cases state <;> rfl

/-- Nothing is passed in an empty text. -/
@[simp]
theorem passage_one
    (state : ScanState) :
    (1 : Summary).passage state = ⟨state, 0⟩ := by
  cases state <;> rfl

/-- The passages of the summary of a text are those through the text. -/
@[simp]
theorem passage_ofText
    (text : Text)
    (state : ScanState) :
    (ofText text).passage state = .ofText state text := by
  cases state <;> rfl

instance : Monoid Summary where
  mul_assoc first second third := by
    apply eq_of_passage
    intro state
    simp only [passage_mul, Passage.andThen, add_assoc]
  one_mul summary := by
    apply eq_of_passage
    intro state
    simp only [passage_mul, passage_one, Passage.andThen, zero_add]
  mul_one summary := by
    apply eq_of_passage
    intro state
    simp only [passage_mul, passage_one, Passage.andThen, add_zero]

end Summary

namespace Counts

/-- The counts of two runs of lines, the second read after the first. -/
theorem ofLines_append
    (state : ScanState)
    (first second : List Text) :
    ofLines state (first ++ second) =
      ofLines state first + ofLines (Line.stateAfter state first) second := by
  simp only [ofLines, Line.scan_append, List.map_append, sum_append]

/-- The counts of each of some pieces, read from the state that the pieces before it leave. -/
def ofPieces
    (state : ScanState) :
    List Text → List Counts
  | [] => []
  | piece :: rest =>
      ofLines state piece.lines :: ofPieces (Line.stateAfter state piece.lines) rest

end Counts

namespace Summary

/-- If no line goes on from one text into another, both are summed up one after the other. -/
theorem ofText_append
    {first : Text}
    (ended : ¬ first.HasOpenLine)
    (second : Text) :
    ofText (first ++ second) = ofText first * ofText second := by
  apply eq_of_passage
  intro state
  simp only [passage_mul, passage_ofText, Passage.ofText, Passage.andThen,
    Text.lines_append ended, Line.stateAfter_append, Counts.ofLines_append]

/-- If no line goes on from one piece into the next, the summaries of the pieces are enough. -/
theorem ofText_flatten
    {pieces : List Text}
    (ended : ∀ piece ∈ pieces.dropLast, ¬ piece.HasOpenLine) :
    ofText pieces.flatten = (pieces.map ofText).prod := by
  induction pieces with
  | nil =>
      rfl
  | cons piece rest inductionHypothesis =>
      cases rest with
      | nil =>
          simp
      | cons next more =>
          rw [List.dropLast_cons_cons, List.forall_mem_cons] at ended
          rw [List.map_cons, List.prod_cons, ← inductionHypothesis ended.2, List.flatten_cons,
            ofText_append ended.1]

/-- The summaries of some pieces together have the counts of each in its turn. -/
theorem counts_passage_prod
    (pieces : List Text)
    (state : ScanState) :
    ((pieces.map ofText).prod.passage state).counts =
      Counts.sum (Counts.ofPieces state pieces) := by
  induction pieces generalizing state with
  | nil =>
      rw [List.map_nil, List.prod_nil, passage_one]
      rfl
  | cons piece rest inductionHypothesis =>
      rw [List.map_cons, List.prod_cons, passage_mul, Passage.andThen, inductionHypothesis,
        passage_ofText]
      rfl

end Summary

/-- Some pieces of text, and which of them are put together first. -/
inductive Grouping where
  | piece (text : Text)
  | both (first second : Grouping)
  deriving Repr

namespace Grouping

/-- The pieces in their order. -/
def pieces :
    Grouping → List Text
  | .piece text => [text]
  | .both first second => first.pieces ++ second.pieces

/-- The summaries of the pieces, put together in groups. -/
def summary :
    Grouping → Summary
  | .piece text => .ofText text
  | .both first second => first.summary.andThen second.summary

/-- It does not matter which summaries are put together first. -/
theorem summary_eq_prod
    (grouping : Grouping) :
    grouping.summary = (grouping.pieces.map Summary.ofText).prod := by
  induction grouping with
  | piece text =>
      simp [summary, pieces]
  | both first second firstHypothesis secondHypothesis =>
      rw [pieces, List.map_append, List.prod_append, ← firstHypothesis, ← secondHypothesis]
      rfl

end Grouping

/--
If no line goes on from one piece of a text into the next, the counts of the text are the
sum of those of its pieces, each read from the state that the one before leaves behind.
The summaries of the pieces, put together in any groups, are that of the text.  And after
a text that leaves the scan outside, another one is read and counted as by itself.
-/
theorem counts_inPieces :
    (∀ pieces : List Text,
      (∀ piece ∈ pieces.dropLast, ¬ piece.HasOpenLine) →
      Counts.ofText pieces.flatten = Counts.sum (Counts.ofPieces .outside pieces) ∧
        ∀ grouping : Grouping, grouping.pieces = pieces →
          grouping.summary = .ofText pieces.flatten ∧
            grouping.summary.fromOutside.counts = Counts.ofText pieces.flatten) ∧
      ∀ first second : Text,
        ¬ first.HasOpenLine →
        Line.stateAfter .outside first.lines = .outside →
        Counts.ofText (first ++ second) = Counts.ofText first + Counts.ofText second ∧
          Line.scan .outside (first ++ second).lines =
            Line.scan .outside first.lines ++ Line.scan .outside second.lines := by
  constructor
  · intro pieces ended
    have whole := Summary.ofText_flatten ended
    constructor
    · rw [← Summary.counts_passage_prod, ← whole, Summary.passage_ofText]
      rfl
    · rintro grouping rfl
      have grouped : grouping.summary = .ofText grouping.pieces.flatten :=
        grouping.summary_eq_prod.trans whole.symm
      exact ⟨grouped, congrArg (fun summary => summary.fromOutside.counts) grouped⟩
  · intro first second ended outside
    constructor
    · simp only [Counts.ofText, Text.lines_append ended, Counts.ofLines_append, outside]
    · rw [Text.lines_append ended, Line.scan_append, outside]

/-- Four pieces, one of them empty, with a line that closes a block or opens one. -/
def markerPieces : List Text :=
  ["x=1;\ny\n\n".toList, [], "b */ %\x7b c\n*/\n".toList, "z=2;".toList]

/-- The same pieces, the middle two of which are put together first. -/
def markerGrouping : Grouping :=
  .both (.piece "x=1;\ny\n\n".toList)
    (.both (.both (.piece []) (.piece "b */ %\x7b c\n*/\n".toList)) (.piece "z=2;".toList))

/-- The pieces count differently from the two states; a text after a closed block does not. -/
theorem counts_inPieces_markerPieces :
    Counts.ofText markerPieces.flatten = ⟨3, 2, 1, 6⟩ ∧
      markerGrouping.summary = ⟨⟨.outside, ⟨3, 2, 1, 6⟩⟩, ⟨.outside, ⟨2, 3, 1, 6⟩⟩⟩ ∧
      Counts.ofText ("/* a\n*/\n".toList ++ "\t\nb".toList) = ⟨0, 2, 0, 2⟩ + ⟨1, 0, 1, 2⟩ := by
  have ended : ∀ piece ∈ markerPieces.dropLast, ¬ piece.HasOpenLine := by decide
  obtain ⟨adds, groups⟩ := counts_inPieces.1 markerPieces ended
  refine ⟨?_, ?_, ?_⟩
  · rw [adds]
    decide +kernel
  · rw [(groups markerGrouping rfl).1]
    decide +kernel
  · have outside : Line.stateAfter .outside (Text.lines "/* a\n*/\n".toList) = .outside := by
      decide +kernel
    rw [(counts_inPieces.2 "/* a\n*/\n".toList "\t\nb".toList (by decide) outside).1]
    decide +kernel

end LineTally
