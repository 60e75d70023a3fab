import LineTally.Run.Journal
import Mathlib.Data.List.Forall2

namespace LineTally.Journal

/-!
# Laws of journals

Journals are a lawful monad, so steps that are done one after the other may be
grouped as one likes.  The lemmas here say what a step does to the steps after it,
without a look at how it is made.
-/

instance : LawfulMonad Journal :=
  LawfulMonad.mk' Journal
    (by
      intro α journal
      obtain ⟨notes, value | fault⟩ := journal
      · rfl
      · simp [Functor.map, bind, pure])
    (by
      intro α β value next
      rfl)
    (by
      intro α β γ journal next last
      obtain ⟨notes, fault | value⟩ := journal
      · rfl
      · simp only [Bind.bind, bind]
        rcases (next value).result with fault | following
        · rfl
        · simp)

/-- A step that succeeds hands its value to the next one and keeps its notes. -/
theorem ok_bind
    {α β : Type}
    (notes : List Note)
    (value : α)
    (next : α → Journal β) :
    (⟨notes, .ok value⟩ : Journal α) >>= next =
      ⟨notes ++ (next value).notes, (next value).result⟩ :=
  rfl

/-- The result of two steps is that of the first one, if it fails, and of the second otherwise. -/
theorem result_bind
    {α β : Type}
    (journal : Journal α)
    (next : α → Journal β) :
    (journal >>= next).result = journal.result.bind fun value => (next value).result := by
  obtain ⟨notes, fault | value⟩ := journal
  · rfl
  · rfl

/-- A note of two steps is one of the first, or of the second if the first one succeeds. -/
theorem mem_notes_bind
    {α β : Type}
    {journal : Journal α}
    {next : α → Journal β}
    {note : Note} :
    note ∈ (journal >>= next).notes ↔
      note ∈ journal.notes ∨
        ∃ value, journal.result = .ok value ∧ note ∈ (next value).notes := by
  obtain ⟨notes, fault | value⟩ := journal
  · simp [Bind.bind, bind]
  · simp [ok_bind]

/-- What is done after a step matters only for the value that the step succeeds with. -/
theorem bind_congr_of_ok
    {α β : Type}
    {journal : Journal α}
    {next other : α → Journal β}
    (same : ∀ value, journal.result = .ok value → next value = other value) :
    journal >>= next = journal >>= other := by
  obtain ⟨notes, fault | value⟩ := journal
  · rfl
  · rw [ok_bind, ok_bind, same value rfl]

/-- An answer of the disk is the value of a step without notes. -/
theorem ofDisk_ok
    {α : Type}
    (value : α) :
    ofDisk (.ok value) = Pure.pure value :=
  rfl

/-- What is told of a value is the value of a step without notes. -/
theorem ofKind_ok
    {α : Type}
    (value : α) :
    ofKind (.ok value) = Pure.pure value :=
  rfl

/-- A step without notes that succeeds. -/
theorem ofExcept_ok
    {α : Type}
    (value : α) :
    ofExcept (.ok value) = Pure.pure value :=
  rfl

/-- A step without notes that fails. -/
theorem ofExcept_error
    {α : Type}
    (fault : Fault) :
    ofExcept (.error fault : Except Fault α) = fail fault :=
  rfl

/-- Nothing is done after a step that fails. -/
theorem fail_bind
    {α β : Type}
    (fault : Fault)
    (next : α → Journal β) :
    (fail fault >>= next) = fail fault :=
  rfl

end LineTally.Journal

/-- Two steps without notes succeed exactly if the first one does and the second one after it. -/
theorem LineTally.Except.bind_eq_ok_iff
    {ε α β : Type}
    {first : Except ε α}
    {next : α → Except ε β}
    {result : β} :
    first >>= next = .ok result ↔ ∃ value, first = .ok value ∧ next value = .ok result := by
  cases first <;> simp [bind, Except.bind]
