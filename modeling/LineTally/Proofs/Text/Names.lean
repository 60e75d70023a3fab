import LineTally.Text.Basic
import Mathlib.Data.Char
import Mathlib.Data.List.Lex
import Mathlib.Data.List.Nodup

namespace LineTally.Text

/-!
# Names in order, and what is listed under them

Names are in the order of the code points of their characters, so names that ascend are
known by which ones they are.  Under names that differ, what is listed is found wherever
it stands.
-/

section Order

variable
  {first second third : Text}

/-- A text precedes another one exactly if the other one is not less. -/
theorem precedes_iff_not_lt :
    precedes first second = true ↔ ¬ second < first := by
  induction first generalizing second with
  | nil =>
      simp [precedes]
  | cons a first inductionHypothesis =>
      cases second with
      | nil =>
          simp [precedes]
      | cons b second =>
          have codes : a.toNat < b.toNat ↔ a < b := Iff.rfl
          rw [List.cons_lt_cons_iff]
          simp only [precedes, Bool.or_eq_true, Bool.and_eq_true, decide_eq_true_eq, codes,
            Char.toNat_inj, inductionHypothesis]
          rcases lt_trichotomy a b with before | same | after
          · simp [before, before.not_gt, before.ne']
          · simp [same]
          · simp [after, after.not_gt, after.ne']

/-- What precedes a text precedes what that text precedes. -/
theorem precedes_trans
    (firstSecond : precedes first second = true)
    (secondThird : precedes second third = true) :
    precedes first third = true := by
  rw [precedes_iff_not_lt, not_lt] at *
  exact firstSecond.trans secondThird

/-- Of two texts one precedes the other. -/
theorem precedes_total
    (first second : Text) :
    (precedes first second || precedes second first) = true := by
  rw [Bool.or_eq_true, precedes_iff_not_lt, precedes_iff_not_lt, not_lt, not_lt]
  exact le_total _ _

/-- A text that precedes another one and is not the same is less. -/
theorem lt_of_precedes
    (before : precedes first second = true)
    (different : first ≠ second) :
    first < second := by
  rw [precedes_iff_not_lt, not_lt] at before
  exact lt_of_le_of_ne before different

end Order

/-- What is left of some names without repetitions repeats none. -/
theorem nodup_eraseDups
    (names : List Text) :
    names.eraseDups.Nodup := by
  match names with
  | [] =>
      exact .nil
  | name :: rest =>
      rw [List.eraseDups_cons, List.nodup_cons]
      refine ⟨fun again => ?_, nodup_eraseDups _⟩
      simp at again
termination_by names.length
decreasing_by exact Nat.lt_succ_of_le (List.length_filter_le _ _)

/-- Sorted names that differ ascend. -/
theorem pairwise_mergeSort_precedes
    {names : List Text}
    (distinct : names.Nodup) :
    (names.mergeSort precedes).Pairwise (· < ·) := by
  have sorted : (names.mergeSort precedes).Pairwise fun first second =>
      precedes first second = true := by
    apply List.pairwise_mergeSort
    · exact fun _ _ _ => precedes_trans
    · exact precedes_total
  have different : (names.mergeSort precedes).Nodup :=
    (List.mergeSort_perm names precedes).nodup_iff.mpr distinct
  exact (sorted.and different).imp fun ⟨before, notSame⟩ => lt_of_precedes before notSame

/-- Names that ascend are known by which ones they are. -/
theorem eq_of_pairwise_lt
    {names others : List Text}
    (ascending : names.Pairwise (· < ·))
    (othersAscending : others.Pairwise (· < ·))
    (same : ∀ name, name ∈ names ↔ name ∈ others) :
    names = others := by
  have rearranged : names.Perm others :=
    (List.perm_ext_iff_of_nodup (ascending.imp ne_of_lt) (othersAscending.imp ne_of_lt)).mpr same
  exact rearranged.eq_of_pairwise
    (fun _ _ _ _ before after => (lt_asymm before after).elim) ascending othersAscending

section Listed

variable
  {α : Type}
  {entries others : List (Text × α)}
  {name : Text}

/-- What is listed under a name is under the first name or after it. -/
theorem lookup_cons_eq
    (first : Text)
    (listed : α)
    (rest : List (Text × α))
    (name : Text) :
    ((first, listed) :: rest).lookup name =
      if name = first then some listed else rest.lookup name := by
  by_cases same : name = first
  · subst same
    rw [List.lookup_cons_self, if_pos rfl]
  · rw [List.lookup_cons, beq_eq_false_iff_ne.mpr same, if_neg same]

/-- Under names that differ, exactly the entries are listed. -/
theorem lookup_eq_some_iff_mem
    (distinct : (entries.map Prod.fst).Nodup)
    {listed : α} :
    entries.lookup name = some listed ↔ (name, listed) ∈ entries := by
  induction entries with
  | nil =>
      simp
  | cons entry rest inductionHypothesis =>
      obtain ⟨first, firstListed⟩ := entry
      rw [List.map_cons, List.nodup_cons] at distinct
      rw [lookup_cons_eq, List.mem_cons, Prod.mk.injEq]
      by_cases same : name = first
      · subst same
        have notLater : (name, listed) ∉ rest := by
          intro later
          exact distinct.1 (List.mem_map.mpr ⟨_, later, rfl⟩)
        simp [notLater, eq_comm]
      · simp [same, inductionHypothesis distinct.2]

/-- Under names that differ, what is listed does not depend on the order of the entries. -/
theorem lookup_eq_of_perm
    (distinct : (entries.map Prod.fst).Nodup)
    (rearranged : entries.Perm others) :
    entries.lookup name = others.lookup name := by
  have othersDistinct : (others.map Prod.fst).Nodup :=
    (rearranged.map Prod.fst).nodup_iff.mp distinct
  apply Option.ext
  intro listed
  rw [lookup_eq_some_iff_mem distinct, lookup_eq_some_iff_mem othersDistinct,
    rearranged.mem_iff]

end Listed

end LineTally.Text
