import LineTally.Proofs.Line.Marks
import Mathlib.Data.List.DropRight
import Mathlib.Data.List.Induction
import Mathlib.Logic.Function.Iterate

namespace LineTally

/-!
# The state that is carried through a run

What a run of lines leaves of the state that it started from depends on few of
the lines.  Most lines leave the state alone; some fix it, whatever it was; and
one combination of markers swaps it.  So the last line that fixes the state and
the number of swaps after it tell the end of a run, and two runs over the same
lines come together exactly if some line fixes the state.
-/

namespace ScanState

/-- The other state. -/
def swapped :
    ScanState → ScanState
  | outside => inBlock
  | inBlock => outside

/-- Swapping keeps different states different. -/
theorem swapped_injective :
    Function.Injective swapped := by
  intro first second same
  cases first <;> cases second <;>
    simp_all [swapped]

end ScanState

namespace Line

/-- A line without effect on the state: it is blank, or a comment from its start on. -/
def IsInert
    (line : Text) :
    Prop :=
  line.trim = [] ∨ IsRemark line

/-- A line after which the scan stands inside a block, whatever was before. -/
def Sets
    (line : Text) :
    Prop :=
  ¬ IsInert line ∧
    ((Has line Marker.blockOpen ∧ ¬ Has line Marker.blockClose) ∨
      (¬ Has line Marker.blockOpen ∧ ¬ Has line Marker.blockClose ∧
        Has line Marker.braceOpen ∧ ¬ Has line Marker.braceClose))

/-- A line after which the scan stands outside every block, whatever was before. -/
def Resets
    (line : Text) :
    Prop :=
  ¬ IsInert line ∧
    Has line Marker.blockClose ∧
    (Has line Marker.blockOpen ∨ ¬ Has line Marker.braceOpen ∨ Has line Marker.braceClose)

/-- A line that closes a block if there is one, and opens one if there is none. -/
def Swaps
    (line : Text) :
    Prop :=
  ¬ IsInert line ∧
    Has line Marker.blockClose ∧ Has line Marker.braceOpen ∧
    ¬ Has line Marker.blockOpen ∧ ¬ Has line Marker.braceClose

instance (line : Text) : Decidable (IsInert line) :=
  inferInstanceAs (Decidable (_ ∨ _))

instance (line : Text) : Decidable (Sets line) :=
  inferInstanceAs (Decidable (_ ∧ _))

instance (line : Text) : Decidable (Resets line) :=
  inferInstanceAs (Decidable (_ ∧ _))

instance (line : Text) : Decidable (Swaps line) :=
  inferInstanceAs (Decidable (_ ∧ _))

/-- The state that a line fixes, if it fixes one. -/
def fixed?
    (line : Text) :
    Option ScanState :=
  if Sets line then
    some .inBlock
  else if Resets line then
    some .outside
  else
    none

/-- Exactly the lines that set or reset the state fix one. -/
theorem fixed?_isSome
    {line : Text} :
    (fixed? line).isSome = true ↔ Sets line ∨ Resets line := by
  by_cases sets : Sets line
  · simp [fixed?, sets]
  · by_cases resets : Resets line <;>
      simp [fixed?, sets, resets]

/-- The state after a line that is not inert, by its marks. -/
theorem next_of_not_inert
    {line : Text}
    (live : ¬ IsInert line)
    (state : ScanState) :
    (classify state line).2 =
      if Has line Marker.blockOpen ∨ state = .inBlock then
        if Has line Marker.blockClose then .outside else .inBlock
      else if Has line Marker.braceOpen then
        if Has line Marker.braceClose then .outside else .inBlock
      else
        state := by
  have notBlank : line.trim ≠ [] :=
    fun blank => live (.inl blank)
  have notRemark : ¬ IsRemark line :=
    fun remark => live (.inr remark)
  rw [classify_eq, if_neg notBlank, if_neg notRemark]
  by_cases opens : Has line Marker.blockOpen
  · simp [opens]
  · by_cases inside : state = .inBlock
    · simp [opens, inside]
    · by_cases opensBrace : Has line Marker.braceOpen
      · simp [opens, inside, opensBrace]
      · by_cases remarks : Has line Marker.percent ∨ Has line Marker.slashes <;>
          simp [opens, inside, opensBrace, remarks]

/-- An inert line leaves the state as it is. -/
theorem next_of_inert
    {line : Text}
    (inert : IsInert line)
    (state : ScanState) :
    (classify state line).2 = state := by
  rw [classify_eq]
  rcases inert with blank | remark
  · simp [blank]
  · by_cases blank : line.trim = [] <;>
      simp [blank, remark]

/-- One line: a fixed state if there is one, else the state before, swapped or not. -/
theorem next_eq
    (state : ScanState)
    (line : Text) :
    (classify state line).2 =
      (fixed? line).getD (if Swaps line then state.swapped else state) := by
  by_cases inert : IsInert line
  · rw [next_of_inert inert]
    simp [fixed?, Sets, Resets, Swaps, inert]
  · rw [next_of_not_inert inert]
    -- No marker rules out another one, so every combination of the four is a case.
    by_cases opens : Has line Marker.blockOpen <;>
      by_cases closes : Has line Marker.blockClose <;>
      by_cases opensBrace : Has line Marker.braceOpen <;>
      by_cases closesBrace : Has line Marker.braceClose <;>
      cases state <;>
      simp [fixed?, Sets, Resets, Swaps, ScanState.swapped,
        inert, opens, closes, opensBrace, closesBrace]

/-- The state that the last of the lines that fix one fixes, if there is such a line. -/
def lastFixed?
    (lines : List Text) :
    Option ScanState :=
  lines.reverse.findSome? fixed?

/-- The lines after the last one that fixes the state; all of them if there is none. -/
def sinceFixed
    (lines : List Text) :
    List Text :=
  lines.rtakeWhile fun line => (fixed? line).isNone

/-- How many lines swap the state after it was fixed for the last time. -/
def swapsSinceFixed
    (lines : List Text) :
    Nat :=
  (sinceFixed lines).countP fun line => Swaps line

/-- The closed form of a run, one line longer. -/
theorem closedForm_concat
    (start : ScanState)
    (lines : List Text)
    (line : Text) :
    ScanState.swapped^[swapsSinceFixed (lines ++ [line])]
        ((lastFixed? (lines ++ [line])).getD start) =
      (fixed? line).getD
        (if Swaps line then
          (ScanState.swapped^[swapsSinceFixed lines]
            ((lastFixed? lines).getD start)).swapped
        else
          ScanState.swapped^[swapsSinceFixed lines]
            ((lastFixed? lines).getD start)) := by
  cases fixes : fixed? line with
  | some state =>
      simp [swapsSinceFixed, sinceFixed, lastFixed?, fixes]
  | none =>
      have last :
          lastFixed? (lines ++ [line]) = lastFixed? lines := by
        simp [lastFixed?, fixes]
      have since :
          sinceFixed (lines ++ [line]) = sinceFixed lines ++ [line] := by
        simp [sinceFixed, fixes]
      rw [last, swapsSinceFixed, since, List.countP_append, List.countP_singleton]
      by_cases swaps : Swaps line
      · simp [swaps, swapsSinceFixed, Function.iterate_succ_apply']
      · simp [swaps, swapsSinceFixed]

/-- The end of a run from the last fixed state and the swaps after it. -/
theorem foldl_next_eq
    (start : ScanState)
    (lines : List Text) :
    lines.foldl (fun state line => (classify state line).2) start =
      ScanState.swapped^[swapsSinceFixed lines] ((lastFixed? lines).getD start) := by
  induction lines using List.reverseRecOn with
  | nil =>
      rfl
  | append_singleton lines line inductionHypothesis =>
      rw [List.foldl_append, List.foldl_cons, List.foldl_nil, next_eq,
        inductionHypothesis, closedForm_concat]

/-- Some state is fixed in a run exactly if some line sets or resets it. -/
theorem lastFixed?_isSome
    {lines : List Text} :
    (lastFixed? lines).isSome = true ↔ ∃ line ∈ lines, Sets line ∨ Resets line := by
  simp [lastFixed?, List.findSome?_isSome_iff, fixed?_isSome]

/--
A run ends in the state that its last setting or resetting line fixes, or in the
start state if there is none, swapped once for every swapping line after that.
Hence the two runs over the same lines end alike exactly if some line fixes the
state.
-/
theorem carriedState_closedForm
    (lines : List Text) :
    (∀ start,
      lines.foldl (fun state line => (classify state line).2) start =
        ScanState.swapped^[swapsSinceFixed lines] ((lastFixed? lines).getD start)) ∧
      (lines.foldl (fun state line => (classify state line).2) .outside =
          lines.foldl (fun state line => (classify state line).2) .inBlock ↔
        ∃ line ∈ lines, Sets line ∨ Resets line) := by
  refine ⟨fun start => foldl_next_eq start lines, ?_⟩
  rw [foldl_next_eq, foldl_next_eq,
    (ScanState.swapped_injective.iterate _).eq_iff, ← lastFixed?_isSome]
  cases lastFixed? lines <;> simp

end Line

end LineTally
