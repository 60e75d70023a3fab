import LineTally.Proofs.Text.Lines
import LineTally.Tally.Basic
import Mathlib.Data.List.Count
import Mathlib.Order.Lattice

namespace LineTally

/-!
# Balanced counts

Every line of a text is of one kind, and a mixed one counts as code and as comment.
So the three columns add up to the lines and the mixed lines again, and no column has
more than all lines.  What is left of this when the kinds are forgotten is kept by
sums: it holds of every tally whose records it holds of.
-/

namespace Line

/-- The kinds of the lines of a text, in their order. -/
def kinds
    (text : Text) :
    List LineKind :=
  (scan .outside text.lines).map Prod.fst

/-- Every line that is read has a kind. -/
theorem length_scan
    (state : ScanState)
    (lines : List Text) :
    (scan state lines).length = lines.length := by
  induction lines generalizing state with
  | nil =>
      rfl
  | cons line rest inductionHypothesis =>
      simp [scan, inductionHypothesis]

/-- A text has as many kinds as lines. -/
theorem length_kinds
    (text : Text) :
    (kinds text).length = text.lines.length := by
  rw [kinds, List.length_map, length_scan]

end Line

namespace LineKind

/-- Each of some kinds is one of the four. -/
theorem length_eq_counts
    (kinds : List LineKind) :
    kinds.length =
      kinds.count .blank + kinds.count .comment + kinds.count .code + kinds.count .mixed := by
  induction kinds with
  | nil =>
      rfl
  | cons kind rest inductionHypothesis =>
      cases kind <;> simp [inductionHypothesis] <;> omega

end LineKind

namespace Counts

section Columns

variable (first second : Counts)

/-- A sum of counts has the code of both. -/
@[simp]
theorem code_add : (first + second).code = first.code + second.code :=
  rfl

/-- A sum of counts has the comments of both. -/
@[simp]
theorem comments_add : (first + second).comments = first.comments + second.comments :=
  rfl

/-- A sum of counts has the blank lines of both. -/
@[simp]
theorem blank_add : (first + second).blank = first.blank + second.blank :=
  rfl

/-- A sum of counts has the lines of both. -/
@[simp]
theorem total_add : (first + second).total = first.total + second.total :=
  rfl

end Columns

/-- Counts with the same columns are the same. -/
@[ext]
theorem ext
    {first second : Counts}
    (code : first.code = second.code)
    (comments : first.comments = second.comments)
    (blank : first.blank = second.blank)
    (total : first.total = second.total) :
    first = second := by
  cases first
  cases second
  simp_all

/-- What lines of some kinds count: a mixed one in two columns, any other in one. -/
theorem sum_map_ofKind
    (kinds : List LineKind) :
    sum (kinds.map ofKind) =
      { code := kinds.count .code + kinds.count .mixed
        comments := kinds.count .comment + kinds.count .mixed
        blank := kinds.count .blank
        total := kinds.length } := by
  induction kinds with
  | nil =>
      rfl
  | cons kind rest inductionHypothesis =>
      rw [List.map_cons, sum, inductionHypothesis]
      cases kind <;> ext <;> simp [ofKind] <;> omega

/-- The counts of a text by the kinds of its lines. -/
theorem ofText_eq
    (text : Text) :
    ofText text =
      { code := (Line.kinds text).count .code + (Line.kinds text).count .mixed
        comments := (Line.kinds text).count .comment + (Line.kinds text).count .mixed
        blank := (Line.kinds text).count .blank
        total := text.lines.length } := by
  rw [← Line.length_kinds, ← sum_map_ofKind, Line.kinds, List.map_map]
  rfl

/--
Counts that can be those of some texts: no column is negative, blank lines and those of
either other column are among all lines, and every line is in some column.
-/
structure IsBalanced
    (counts : Counts) :
    Prop where
  code_nonneg : 0 ≤ counts.code
  comments_nonneg : 0 ≤ counts.comments
  blank_nonneg : 0 ≤ counts.blank
  columns_le_total : counts.blank + max counts.code counts.comments ≤ counts.total
  total_le_columns : counts.total ≤ counts.code + counts.comments + counts.blank

namespace IsBalanced

/-- No more lines are comments than there are lines. -/
theorem comments_le_total
    {counts : Counts}
    (balanced : counts.IsBalanced) :
    counts.comments ≤ counts.total := by
  have blank := balanced.blank_nonneg
  have columns := balanced.columns_le_total
  have greatest := le_max_right counts.code counts.comments
  omega

/-- Without lines, the counts are balanced. -/
theorem zero : Counts.zero.IsBalanced := by
  constructor <;> decide

/-- A sum of balanced counts is balanced. -/
theorem add
    {first second : Counts}
    (firstBalanced : first.IsBalanced)
    (secondBalanced : second.IsBalanced) :
    (first + second).IsBalanced := by
  obtain ⟨firstCode, firstComments, firstBlank, firstLower, firstUpper⟩ := firstBalanced
  obtain ⟨secondCode, secondComments, secondBlank, secondLower, secondUpper⟩ := secondBalanced
  constructor <;>
    simp only [code_add, comments_add, blank_add, total_add] <;> omega

/-- The sum of any number of balanced counts is balanced. -/
theorem sum
    {all : List Counts}
    (balanced : ∀ counts ∈ all, counts.IsBalanced) :
    (Counts.sum all).IsBalanced := by
  induction all with
  | nil =>
      exact zero
  | cons counts rest inductionHypothesis =>
      rw [List.forall_mem_cons] at balanced
      exact add balanced.1 (inductionHypothesis balanced.2)

/-- The counts of a text are balanced. -/
theorem ofText
    (text : Text) :
    (Counts.ofText text).IsBalanced := by
  have kinds := LineKind.length_eq_counts (Line.kinds text)
  rw [Line.length_kinds] at kinds
  rw [ofText_eq]
  constructor <;> simp only <;> omega

end IsBalanced

end Counts

end LineTally
