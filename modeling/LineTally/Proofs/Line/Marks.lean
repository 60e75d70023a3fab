import LineTally.Line.Basic
import Mathlib.Data.List.Infix

namespace LineTally

/-!
# What a line is read for

A line is read for the markers that it has between its blank ends, and for
nothing else.  The classification is stated here over these marks, so that
the theory of lines rests on one equation and not on the search for runs of
characters.
-/

namespace Text

/-- A text occurs in another one exactly if it is a run of its characters. -/
theorem occursIn_iff_infix
    {mark text : Text} :
    mark.occursIn text = true ↔ mark <:+: text := by
  induction text with
  | nil =>
      simp [occursIn, List.isEmpty_iff]
  | cons c rest inductionHypothesis =>
      rw [List.infix_cons_iff, ← inductionHypothesis]
      simp [occursIn]

end Text

namespace Line

/-- A line has a marker between its blank ends. -/
def Has
    (line marker : Text) :
    Prop :=
  marker <:+: line.trim

instance (line marker : Text) : Decidable (Has line marker) :=
  inferInstanceAs (Decidable (_ <:+: _))

/-- A line starts with a marker of comments that end with the line. -/
def IsRemark
    (line : Text) :
    Prop :=
  Marker.percent <+: line.trim ∨ Marker.slashes <+: line.trim

instance (line : Text) : Decidable (IsRemark line) :=
  inferInstanceAs (Decidable (_ ∨ _))

/-- Whether a closing marker is there is all that counts for the state after a block. -/
theorem afterBlock_eq
    (closing line : Text) :
    ScanState.afterBlock closing line.trim =
      if Has line closing then .outside else .inBlock := by
  simp only [ScanState.afterBlock, Has, Text.occursIn_iff_infix]
  congr

/-- The classification of a line by its marks. -/
theorem classify_eq
    (state : ScanState)
    (line : Text) :
    classify state line =
      if line.trim = [] then
        (.blank, state)
      else if IsRemark line then
        (.comment, state)
      else if Has line Marker.blockOpen then
        (.comment, if Has line Marker.blockClose then .outside else .inBlock)
      else if state = .inBlock then
        (.comment, if Has line Marker.blockClose then .outside else .inBlock)
      else if Has line Marker.braceOpen then
        (.comment, if Has line Marker.braceClose then .outside else .inBlock)
      else if Has line Marker.percent ∨ Has line Marker.slashes then
        (.mixed, state)
      else
        (.code, state) := by
  simp only [classify, classifyTrimmed, afterBlock_eq, Text.startsWithAny,
    Marker.lineComment, List.any_cons, List.any_nil, Bool.or_false, Bool.or_eq_true,
    List.isPrefixOf_iff_prefix, Text.occursIn_iff_infix, List.isEmpty_iff,
    IsRemark, Has]
  congr

end Line

end LineTally
