import LineTally.Proofs.Line.Marks
import LineTally.Tally.Basic

namespace LineTally

/-!
# The table of rules

The kinds of lines are laid down as a table of nine rules, of which the first
that applies decides.  The table keeps apart what reading a line merges: both
styles of block comment have a rule for the line that opens a block and one for
the lines in it, and both markers of remarks have a rule for the line that has
one after program text.  Reading a line agrees with the table, line by line and
in the counts of a text.
-/

namespace Line

/-- A line has a marker between its blank ends, but not only at the start. -/
def HasInside
    (line marker : Text) :
    Prop :=
  ∃ before after, before ≠ [] ∧ line.trim = before ++ marker ++ after

/-- A marker that a line does not start with is in the line only if it is inside. -/
theorem has_iff_hasInside
    {line marker : Text}
    (notFirst : ¬ marker <+: line.trim) :
    Has line marker ↔ HasInside line marker := by
  constructor
  · rintro ⟨before, after, shape⟩
    refine ⟨before, after, ?_, shape.symm⟩
    intro atStart
    apply notFirst
    exact ⟨after, by simpa [atStart] using shape⟩
  · rintro ⟨before, after, _, shape⟩
    exact ⟨before, after, shape.symm⟩

/-- Inside a line is what comes after its first character. -/
theorem hasInside_iff_infix_tail
    {line marker : Text} :
    HasInside line marker ↔ line.trim ≠ [] ∧ marker <:+: line.trim.tail := by
  constructor
  · rintro ⟨before, after, notEmpty, shape⟩
    obtain ⟨first, rest, rfl⟩ := List.exists_cons_of_ne_nil notEmpty
    rw [shape]
    exact ⟨by simp, ⟨rest, after, by simp⟩⟩
  · rintro ⟨notEmpty, before, after, shape⟩
    obtain ⟨first, rest, trimmed⟩ := List.exists_cons_of_ne_nil notEmpty
    rw [trimmed, List.tail_cons] at shape
    exact ⟨first :: before, after, by simp, by simp [trimmed, ← shape]⟩

instance (line marker : Text) : Decidable (HasInside line marker) :=
  decidable_of_iff _ hasInside_iff_infix_tail.symm

/-- The rules of the table. -/
inductive Rule where
  /-- Nothing is left of the line without its blank ends. -/
  | empty
  /-- The line starts with a marker of remarks. -/
  | remark
  /-- The line opens a block. -/
  | opening
  /-- The line is in a block, which `*/` closes. -/
  | inBlock
  /-- The line opens a block of the percent style. -/
  | braceOpening
  /-- The line is in a block of the percent style, which its own marker closes. -/
  | inBraceBlock
  /-- The line has a percent sign after its start. -/
  | percentInside
  /-- The line has two slashes after its start. -/
  | slashesInside
  /-- Any other line. -/
  | other
  deriving Repr, DecidableEq

namespace Rule

/-- The rules that have a condition, in the order in which they are tried. -/
def order : List Rule :=
  [.empty, .remark, .opening, .inBlock, .braceOpening, .inBraceBlock,
    .percentInside, .slashesInside]

/-- When a rule applies to a line that is read in a state. -/
def Applies
    (state : ScanState)
    (line : Text) :
    Rule → Prop
  | .empty => line.trim = []
  | .remark => IsRemark line
  | .opening => Has line Marker.blockOpen
  | .inBlock => state = .inBlock
  | .braceOpening => Has line Marker.braceOpen
  | .inBraceBlock => state = .inBlock
  | .percentInside => HasInside line Marker.percent
  | .slashesInside => HasInside line Marker.slashes
  | .other => True

instance (state : ScanState) (line : Text) : DecidablePred (Applies state line) :=
  fun rule => by
    cases rule <;> unfold Applies <;> infer_instance

/-- The kind that a rule gives a line. -/
def kind :
    Rule → LineKind
  | .empty => .blank
  | .remark | .opening | .inBlock | .braceOpening | .inBraceBlock => .comment
  | .percentInside | .slashesInside => .mixed
  | .other => .code

/-- The state after a line that a rule decides. -/
def next
    (state : ScanState)
    (line : Text) :
    Rule → ScanState
  | .opening => if Has line Marker.blockClose then .outside else .inBlock
  | .inBlock => if Has line Marker.blockClose then .outside else state
  | .braceOpening => if Has line Marker.braceClose then .outside else .inBlock
  | .inBraceBlock => if Has line Marker.braceClose then .outside else state
  | _ => state

/-- What a rule adds to the counts: remarks after program text count as both. -/
def adds :
    Rule → Counts
  | .empty => ⟨0, 0, 1, 1⟩
  | .remark | .opening | .inBlock | .braceOpening | .inBraceBlock => ⟨0, 1, 0, 1⟩
  | .percentInside | .slashesInside => ⟨1, 1, 0, 1⟩
  | .other => ⟨1, 0, 0, 1⟩

/-- The rule that decides a line: the first that applies. -/
def firing
    (state : ScanState)
    (line : Text) :
    Rule :=
  (order.find? fun rule => Applies state line rule).getD .other

/-- The counts of some lines by the table, read from a state on. -/
def countsOf
    (state : ScanState) :
    List Text → Counts
  | [] => .zero
  | line :: rest =>
      let rule := firing state line
      rule.adds + countsOf (rule.next state line) rest

/-- What the kind of a rule counts is what the rule adds. -/
theorem ofKind_kind
    (rule : Rule) :
    Counts.ofKind rule.kind = rule.adds := by
  cases rule <;> rfl

/-- Of the rules that are left to try, the first decides if it applies. -/
theorem firstOf_cons
    (state : ScanState)
    (line : Text)
    (rule : Rule)
    (rest : List Rule) :
    ((rule :: rest).find? fun rule => Applies state line rule).getD .other =
      if Applies state line rule then
        rule
      else
        (rest.find? fun rule => Applies state line rule).getD .other := by
  by_cases applies : Applies state line rule <;>
    simp [applies]

/-- The deciding rule, with the conditions in the order of the table. -/
theorem firing_eq
    (state : ScanState)
    (line : Text) :
    firing state line =
      if line.trim = [] then .empty
      else if IsRemark line then .remark
      else if Has line Marker.blockOpen then .opening
      else if state = .inBlock then .inBlock
      else if Has line Marker.braceOpen then .braceOpening
      else if state = .inBlock then .inBraceBlock
      else if HasInside line Marker.percent then .percentInside
      else if HasInside line Marker.slashes then .slashesInside
      else .other := by
  simp only [firing, order, firstOf_cons, List.find?_nil, Option.getD_none]
  simp only [Applies]

/-- The rules for lines in a block apply to the same lines, and the earlier one decides. -/
theorem firing_ne_inBraceBlock
    (state : ScanState)
    (line : Text) :
    firing state line ≠ .inBraceBlock := by
  rw [firing_eq]
  -- The sixth condition is the fourth again, so no case is left for it.
  split_ifs <;> simp

/-- Reading a line gives what the table gives. -/
theorem classify_eq_firing
    (state : ScanState)
    (line : Text) :
    classify state line =
      ((firing state line).kind, (firing state line).next state line) := by
  rw [classify_eq, firing_eq]
  by_cases blank : line.trim = []
  · simp [blank, kind, next]
  by_cases remark : IsRemark line
  · simp [blank, remark, kind, next]
  by_cases opens : Has line Marker.blockOpen
  · simp [blank, remark, opens, kind, next]
  by_cases inside : state = .inBlock
  · simp [blank, remark, opens, inside, kind, next]
  by_cases opensBrace : Has line Marker.braceOpen
  · simp [blank, remark, opens, inside, opensBrace, kind, next]
  -- No marker of remarks is at the start any more, so one in the line is inside it.
  have percent := has_iff_hasInside fun first => remark (.inl first)
  have slashes := has_iff_hasInside fun first => remark (.inr first)
  by_cases percentInside : HasInside line Marker.percent
  · simp [blank, remark, opens, inside, opensBrace, percent, percentInside, kind, next]
  by_cases slashesInside : HasInside line Marker.slashes <;>
    simp [blank, remark, opens, inside, opensBrace, percent, slashes,
      percentInside, slashesInside, kind, next]

/-- The counts of some lines are those by the table. -/
theorem ofLines_eq_countsOf
    (state : ScanState)
    (lines : List Text) :
    Counts.ofLines state lines = countsOf state lines := by
  induction lines generalizing state with
  | nil =>
      rfl
  | cons line rest inductionHypothesis =>
      simp only [Counts.ofLines, Line.scan, List.map_cons, Counts.sum] at inductionHypothesis ⊢
      rw [inductionHypothesis, classify_eq_firing, ofKind_kind]
      rfl

/--
Reading a line agrees with the table for every line and state, the second rule for
lines in a block never decides, and the counts of a text are those by the table.
-/
theorem classify_refines_table :
    (∀ state line,
      classify state line =
          ((firing state line).kind, (firing state line).next state line) ∧
        firing state line ≠ .inBraceBlock) ∧
      ∀ text : Text,
        Counts.ofText text = countsOf .outside text.lines :=
  ⟨fun state line =>
      ⟨classify_eq_firing state line, firing_ne_inBraceBlock state line⟩,
    fun text => ofLines_eq_countsOf .outside text.lines⟩

end Rule

end Line

end LineTally
