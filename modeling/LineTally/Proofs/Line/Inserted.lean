import LineTally.Proofs.Line.CarriedState
import LineTally.Proofs.Tally.Sums
import LineTally.Proofs.Text.Padding

namespace LineTally

/-!
# Inserted comments

What is inserted between two runs of lines shows in the later run only by the state that
it leaves behind.  Lines that are blank or comments from their start on leave every state
as it is, and a whole block comment leaves the scan outside as it was.  So with either of
them inserted all other lines are of the kinds that they were of, and the counts grow by
the inserted lines.
-/

namespace Line

/-- The kinds of some lines that are read from a state on. -/
def kindsFrom
    (state : ScanState)
    (lines : List Text) :
    List LineKind :=
  (scan state lines).map Prod.fst

section Append

variable
  (state : ScanState)
  (first second : List Text)

/-- A run of lines is read from the state that the run before it leaves behind. -/
theorem scan_append :
    scan state (first ++ second) = scan state first ++ scan (stateAfter state first) second := by
  induction first generalizing state with
  | nil =>
      rfl
  | cons line rest inductionHypothesis =>
      rw [List.cons_append, scan, scan, stateAfter, inductionHypothesis, List.cons_append]

/-- The state after two runs of lines is that after the second, read after the first. -/
theorem stateAfter_append :
    stateAfter state (first ++ second) = stateAfter (stateAfter state first) second := by
  induction first generalizing state with
  | nil =>
      rfl
  | cons line rest inductionHypothesis =>
      rw [List.cons_append, stateAfter, stateAfter, inductionHypothesis]

/-- The kinds of two runs of lines. -/
theorem kindsFrom_append :
    kindsFrom state (first ++ second) =
      kindsFrom state first ++ kindsFrom (stateAfter state first) second := by
  rw [kindsFrom, scan_append, List.map_append, kindsFrom, kindsFrom]

end Append

/-- Every line has a kind. -/
theorem length_kindsFrom
    (state : ScanState)
    (lines : List Text) :
    (kindsFrom state lines).length = lines.length := by
  rw [kindsFrom, List.length_map, length_scan]

/-- The kind of a line with nothing but a comment in it: a blank one is none. -/
def commentKind
    (line : Text) :
    LineKind :=
  if line.trim = [] then .blank else .comment

/-- A line that is not inert is not blank. -/
theorem commentKind_of_not_inert
    {line : Text}
    (live : ¬ IsInert line) :
    commentKind line = .comment := by
  rw [commentKind, if_neg fun blank => live (.inl blank)]

/-- An inert line is a comment or blank in every state, and leaves the state as it is. -/
theorem classify_of_inert
    {line : Text}
    (inert : IsInert line)
    (state : ScanState) :
    classify state line = (commentKind line, state) := by
  rw [classify_eq, commentKind]
  by_cases blank : line.trim = []
  · rw [if_pos blank, if_pos blank]
  · rw [if_neg blank, if_neg blank, if_pos (inert.resolve_left blank)]

/-- Any other line with the marker that opens a block is a comment in every state. -/
theorem classify_of_blockOpen
    {line : Text}
    (live : ¬ IsInert line)
    (opens : Has line Marker.blockOpen)
    (state : ScanState) :
    classify state line =
      (commentKind line, if Has line Marker.blockClose then .outside else .inBlock) := by
  rw [commentKind_of_not_inert live, classify_eq, if_neg fun blank => live (.inl blank),
    if_neg fun remark => live (.inr remark), if_pos opens]

/-- Any other line in a block is a comment, whatever markers it has. -/
theorem classify_inBlock
    {line : Text}
    (live : ¬ IsInert line) :
    classify .inBlock line =
      (commentKind line, if Has line Marker.blockClose then .outside else .inBlock) := by
  rw [commentKind_of_not_inert live, classify_eq, if_neg fun blank => live (.inl blank),
    if_neg fun remark => live (.inr remark), if_pos rfl, ite_self]

/-- The markers of a block have no blank character. -/
theorem isBlank_of_mem_blockMarker
    {c : Char}
    (inMarker : c ∈ Marker.blockOpen ∨ c ∈ Marker.blockClose) :
    Text.isBlank c = false := by
  have slashOrStar : c = '/' ∨ c = '*' := by
    simpa [Marker.blockOpen, Marker.blockClose, or_comm] using inMarker
  rcases slashOrStar with rfl | rfl <;> decide

/-- Blank ends of a line have no part of the marker that opens a block. -/
theorem has_blockOpen_iff
    {line : Text} :
    Has line Marker.blockOpen ↔ Marker.blockOpen <:+: line :=
  Text.infix_trim_iff (fun _ inMarker => isBlank_of_mem_blockMarker (.inl inMarker)) line

/-- Blank ends of a line have no part of the marker that closes a block. -/
theorem has_blockClose_iff
    {line : Text} :
    Has line Marker.blockClose ↔ Marker.blockClose <:+: line :=
  Text.infix_trim_iff (fun _ inMarker => isBlank_of_mem_blockMarker (.inr inMarker)) line

/--
A block comment over whole lines: one that opens it, one that closes it, and lines
between them of which only inert ones may have the marker that closes a block.
-/
structure IsBlock
    (opening : Text)
    (body : List Text)
    (closing : Text) :
    Prop where
  opening_live : ¬ IsInert opening
  opens : Marker.blockOpen <:+: opening
  stays_open : ¬ Marker.blockClose <:+: opening
  body : ∀ line ∈ body, IsInert line ∨ ¬ Marker.blockClose <:+: line
  closing_live : ¬ IsInert closing
  closes : Marker.blockClose <:+: closing

namespace IsBlock

variable
  {opening closing : Text}
  {body : List Text}

/-- After the first line of a block the scan stands inside. -/
theorem classify_opening
    (isBlock : IsBlock opening body closing)
    (state : ScanState) :
    classify state opening = (commentKind opening, .inBlock) := by
  have staysOpen : ¬ Has opening Marker.blockClose :=
    fun closed => isBlock.stays_open (has_blockClose_iff.mp closed)
  rw [classify_of_blockOpen isBlock.opening_live (has_blockOpen_iff.mpr isBlock.opens),
    if_neg staysOpen]

/-- Each line between the first and the last leaves the scan inside. -/
theorem classify_body
    (isBlock : IsBlock opening body closing)
    {line : Text}
    (member : line ∈ body) :
    classify .inBlock line = (commentKind line, .inBlock) := by
  by_cases inert : IsInert line
  · exact classify_of_inert inert .inBlock
  · have notClosed : ¬ Has line Marker.blockClose :=
      fun closed => (isBlock.body line member).resolve_left inert (has_blockClose_iff.mp closed)
    rw [classify_inBlock inert, if_neg notClosed]

/-- After the last line of a block the scan stands outside. -/
theorem classify_closing
    (isBlock : IsBlock opening body closing) :
    classify .inBlock closing = (commentKind closing, .outside) := by
  rw [classify_inBlock isBlock.closing_live, if_pos (has_blockClose_iff.mpr isBlock.closes)]

end IsBlock

/-- Some lines that lead from a state to another one are all blank or comments. -/
structure AreComments
    (state next : ScanState)
    (lines : List Text) :
    Prop where
  kinds : kindsFrom state lines = lines.map commentKind
  leadsTo : stateAfter state lines = next

namespace AreComments

/-- One such line before others. -/
theorem cons
    {state middle next : ScanState}
    {line : Text}
    {rest : List Text}
    (read : classify state line = (commentKind line, middle))
    (restAre : AreComments middle next rest) :
    AreComments state next (line :: rest) where
  kinds := by
    have restKinds := restAre.kinds
    rw [kindsFrom] at restKinds
    rw [kindsFrom, scan, read, List.map_cons, restKinds, List.map_cons]
  leadsTo := by
    rw [stateAfter, read, restAre.leadsTo]

/-- Lines that each keep the state do not change it together, before others. -/
theorem append_of_steady
    {state next : ScanState}
    {lines rest : List Text}
    (steady : ∀ line ∈ lines, classify state line = (commentKind line, state))
    (restAre : AreComments state next rest) :
    AreComments state next (lines ++ rest) := by
  induction lines with
  | nil =>
      exact restAre
  | cons line more inductionHypothesis =>
      obtain ⟨read, moreSteady⟩ := List.forall_mem_cons.mp steady
      exact cons read (inductionHypothesis moreSteady)

/-- No lines lead from a state to itself. -/
theorem nil
    (state : ScanState) :
    AreComments state state [] :=
  ⟨rfl, rfl⟩

/-- Inert lines are blank or comments in every state. -/
theorem of_inert
    {lines : List Text}
    (inert : ∀ line ∈ lines, IsInert line)
    (state : ScanState) :
    AreComments state state lines := by
  have steady : ∀ line ∈ lines, classify state line = (commentKind line, state) :=
    fun line member => classify_of_inert (inert line member) state
  have all := append_of_steady steady (nil state)
  rwa [List.append_nil] at all

/-- The lines of a block are blank or comments, and lead out of it. -/
theorem of_isBlock
    {opening closing : Text}
    {body : List Text}
    (isBlock : IsBlock opening body closing)
    (state : ScanState) :
    AreComments state .outside (opening :: body ++ [closing]) := by
  apply cons (isBlock.classify_opening state)
  apply append_of_steady fun line member => isBlock.classify_body member
  exact cons isBlock.classify_closing (nil .outside)

end AreComments

end Line

namespace Counts

/-- What lines with nothing but comments in them count. -/
def ofComments
    (lines : List Text) :
    Counts where
  code := 0
  comments := lines.countP fun line => line.trim ≠ []
  blank := lines.countP fun line => line.trim = []
  total := lines.length

/-- Each of such lines counts once, as blank or as a comment. -/
theorem sum_ofKind_commentKind
    (lines : List Text) :
    sum ((lines.map Line.commentKind).map ofKind) = ofComments lines := by
  induction lines with
  | nil =>
      rfl
  | cons line rest inductionHypothesis =>
      rw [List.map_cons, List.map_cons, sum, inductionHypothesis, Line.commentKind]
      by_cases blank : line.trim = [] <;>
        ext <;> simp [ofComments, ofKind, blank, Int.add_comm]

/-- The counts of some lines are those of their kinds. -/
theorem ofLines_eq
    (state : ScanState)
    (lines : List Text) :
    ofLines state lines = sum ((Line.kindsFrom state lines).map ofKind) := by
  rw [ofLines, Line.kindsFrom, List.map_map]
  rfl

end Counts

namespace Line

/--
Lines that are inserted between others are blank or comments, and nothing else changes:
every other line is of the kind that it was of, and the counts grow by the inserted lines
alone.
-/
structure IsInsertedAlone
    (start : ScanState)
    (before inserted after : List Text) :
    Prop where
  kinds :
    ∃ earlier later,
      earlier.length = before.length ∧ later.length = after.length ∧
        kindsFrom start (before ++ after) = earlier ++ later ∧
        kindsFrom start (before ++ inserted ++ after) =
          earlier ++ inserted.map commentKind ++ later
  counts :
    Counts.ofLines start (before ++ inserted ++ after) =
      Counts.ofLines start (before ++ after) + Counts.ofComments inserted
  texts :
    start = .outside →
      ∀ text longer : Text,
        text.lines = before ++ after →
        longer.lines = before ++ inserted ++ after →
        Counts.ofText longer = Counts.ofText text + Counts.ofComments inserted

/-- Lines without code that lead back to the state before them are inserted alone. -/
theorem AreComments.isInsertedAlone
    {start : ScanState}
    {before inserted : List Text}
    (areComments : AreComments (stateAfter start before) (stateAfter start before) inserted)
    (after : List Text) :
    IsInsertedAlone start before inserted after := by
  have shorter := kindsFrom_append start before after
  have longer :
      kindsFrom start (before ++ inserted ++ after) =
        kindsFrom start before ++ inserted.map commentKind
          ++ kindsFrom (stateAfter start before) after := by
    rw [kindsFrom_append, kindsFrom_append, stateAfter_append, areComments.kinds,
      areComments.leadsTo]
  have counts :
      Counts.ofLines start (before ++ inserted ++ after) =
        Counts.ofLines start (before ++ after) + Counts.ofComments inserted := by
    rw [Counts.ofLines_eq, Counts.ofLines_eq, longer, shorter]
    simp only [List.map_append, Counts.sum_append, Counts.sum_ofKind_commentKind]
    exact add_right_comm _ _ _
  exact
    { kinds :=
        ⟨_, _, length_kindsFrom start before, length_kindsFrom _ after, shorter, longer⟩
      counts
      texts := by
        rintro rfl text other textLines otherLines
        rw [Counts.ofText, Counts.ofText, textLines, otherLines, counts] }

/--
Lines that are blank or comments from their start on are inserted alone between any
others, and so is a block comment wherever the scan stands outside.
-/
theorem comments_isInsertedAlone :
    (∀ (start : ScanState) (before inserted after : List Text),
      (∀ line ∈ inserted, IsInert line) →
      IsInsertedAlone start before inserted after) ∧
      ∀ (start : ScanState) (before : List Text) (opening : Text) (body : List Text)
          (closing : Text) (after : List Text),
        stateAfter start before = .outside →
        IsBlock opening body closing →
        IsInsertedAlone start before (opening :: body ++ [closing]) after := by
  constructor
  · intro start before inserted after inert
    exact (AreComments.of_inert inert (stateAfter start before)).isInsertedAlone after
  · intro start before opening body closing after outside isBlock
    apply AreComments.isInsertedAlone
    rw [outside]
    exact AreComments.of_isBlock isBlock .outside

/-- So is a remark with the closing marker in a block, and a block with other markers in it. -/
theorem comments_isInsertedAlone_markers :
    IsInert "  // x */".toList ∧
      Counts.ofLines .inBlock ["y".toList, "  // x */".toList, [], "*/".toList, "z".toList] =
        ⟨1, 2, 0, 3⟩ + ⟨0, 1, 1, 2⟩ ∧
      IsBlock "/* a".toList ["%\x7d b=2; /* c".toList, "% */".toList, []] "d /* e */".toList ∧
      Counts.ofText "x=1;\n/* a\n%\x7d b=2; /* c\n% */\n\nd /* e */\ny=2; // z\n".toList =
        ⟨2, 1, 0, 2⟩ + ⟨0, 4, 1, 5⟩ := by
  have inert : ∀ line ∈ ["  // x */".toList, []], IsInert line := by decide
  have isBlock :
      IsBlock "/* a".toList ["%\x7d b=2; /* c".toList, "% */".toList, []]
        "d /* e */".toList :=
    ⟨by decide, by decide, by decide, by decide, by decide, by decide⟩
  refine ⟨by decide, ?_, isBlock, ?_⟩
  · have remarks :=
      comments_isInsertedAlone.1 .inBlock ["y".toList] ["  // x */".toList, []]
        ["*/".toList, "z".toList] inert
    exact remarks.counts.trans (by decide +kernel)
  · have block :=
      comments_isInsertedAlone.2 .outside ["x=1;".toList] _ _ _ ["y=2; // z".toList]
        (by decide +kernel) isBlock
    have counts :=
      block.texts rfl "x=1;\ny=2; // z\n".toList
        "x=1;\n/* a\n%\x7d b=2; /* c\n% */\n\nd /* e */\ny=2; // z\n".toList
        (by decide +kernel) (by decide +kernel)
    exact counts.trans (by decide +kernel)

end Line

end LineTally
