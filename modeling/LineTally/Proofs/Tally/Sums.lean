import LineTally.Proofs.Tally.Balance
import Mathlib.Algebra.BigOperators.Group.List.Basic
import Mathlib.Algebra.GroupWithZero.Nat

namespace LineTally

/-!
# Sums of counts

Counts are added column by column, so their sums do not depend on the order in which they
are added or on how they are grouped.
-/

namespace Counts

instance : Zero Counts := ⟨zero⟩

section Columns

/-- Zero counts no code. -/
@[simp]
theorem code_zero : (0 : Counts).code = 0 :=
  rfl

/-- Zero counts no comments. -/
@[simp]
theorem comments_zero : (0 : Counts).comments = 0 :=
  rfl

/-- Zero counts no blank lines. -/
@[simp]
theorem blank_zero : (0 : Counts).blank = 0 :=
  rfl

/-- Zero counts no lines. -/
@[simp]
theorem total_zero : (0 : Counts).total = 0 :=
  rfl

end Columns

instance : AddCommMonoid Counts where
  add_assoc first second third := by
    ext <;> simp only [code_add, comments_add, blank_add, total_add, Int.add_assoc]
  zero_add counts := by
    ext <;> simp
  add_zero counts := by
    ext <;> simp
  add_comm first second := by
    ext <;> simp only [code_add, comments_add, blank_add, total_add, Int.add_comm]
  nsmul := nsmulRec

/-- The sum of some counts is that of the library. -/
theorem sum_eq
    (all : List Counts) :
    sum all = all.sum := by
  induction all with
  | nil =>
      rfl
  | cons counts rest inductionHypothesis =>
      rw [sum, inductionHypothesis, List.sum_cons]

/-- The sum of two runs of counts is that of their sums. -/
theorem sum_append
    (first second : List Counts) :
    sum (first ++ second) = sum first + sum second := by
  rw [sum_eq, sum_eq, sum_eq, List.sum_append]

/-- The order does not matter for a sum. -/
theorem sum_perm
    {first second : List Counts}
    (same : first.Perm second) :
    sum first = sum second := by
  rw [sum_eq, sum_eq, same.sum_eq]

end Counts

namespace Tally

/-- The totals of two tallies together are their totals added. -/
theorem totals_append
    (first second : Tally) :
    totals (first ++ second) = totals first + totals second := by
  rw [totals, totals, totals, List.map_append, Counts.sum_append]

/-- The order of the records does not matter for the totals. -/
theorem totals_perm
    {first second : Tally}
    (same : first.Perm second) :
    totals first = totals second := by
  rw [totals, totals, Counts.sum_perm (same.map _)]

/-- The totals of some tallies together are the sum of the totals of each. -/
theorem totals_flatMap
    {α : Type}
    (parts : List α)
    (tallyOf : α → Tally) :
    totals (parts.flatMap tallyOf) = Counts.sum (parts.map fun part => totals (tallyOf part)) := by
  induction parts with
  | nil =>
      rfl
  | cons part rest inductionHypothesis =>
      rw [List.flatMap_cons, totals_append, inductionHypothesis, List.map_cons, Counts.sum]

/-- A tally has as many files as its parts together, and counts what they count. -/
structure AddsUp
    (whole own : Tally)
    (parts : List Tally) :
    Prop where
  files : whole.length = own.length + (parts.map List.length).sum
  totals : whole.totals = own.totals + Counts.sum (parts.map Tally.totals)

/-- The records of a tally can be taken apart in any order. -/
theorem addsUp_of_perm
    {α : Type}
    {whole own : Tally}
    {parts : List α}
    {tallyOf : α → Tally}
    (perm : whole.Perm (own ++ parts.flatMap tallyOf)) :
    AddsUp whole own (parts.map tallyOf) where
  files := by
    rw [perm.length_eq, List.length_append, List.length_flatMap, List.map_map]
    rfl
  totals := by
    rw [totals_perm perm, totals_append, totals_flatMap, List.map_map]
    rfl

end Tally

end LineTally
