import LineTally.Run.Fault
import LineTally.Run.Note

namespace LineTally

/-!
# Journals

A step that may fail and that makes notes yields a journal: its notes in order,
and its result.  Steps are done one after the other until one fails; the notes
up to there are kept.
-/

/-- The notes and the result of a step. -/
structure Journal (α : Type) where
  notes : List Note
  result : Except Fault α

namespace Journal

/-- The journal of a step without notes. -/
def ofExcept
    {α : Type}
    (result : Except Fault α) :
    Journal α :=
  ⟨[], result⟩

/-- The journal of a step that succeeds without notes. -/
def pure
    {α : Type}
    (value : α) :
    Journal α :=
  ⟨[], .ok value⟩

/-- The journal of a step that fails without notes. -/
def fail
    {α : Type}
    (fault : Fault) :
    Journal α :=
  ⟨[], .error fault⟩

/-- The journal of a step and, unless it fails, of the next one. -/
def bind
    {α β : Type}
    (journal : Journal α)
    (next : α → Journal β) :
    Journal β :=
  match journal.result with
  | .ok value =>
      let following := next value
      ⟨journal.notes ++ following.notes, following.result⟩
  | .error fault => ⟨journal.notes, .error fault⟩

instance : Monad Journal where
  pure := pure
  bind := bind

/-- A step that only makes a note. -/
def note
    (level : Level)
    (channel : Channel)
    (text : Text) :
    Journal Unit :=
  ⟨[⟨level, channel, text⟩], .ok ()⟩

/-- A step that never fails: it yields the result of another one, failed or not. -/
def attempt
    {α : Type}
    (journal : Journal α) :
    Journal (Except Fault α) :=
  ⟨journal.notes, .ok journal.result⟩

/-- A step that asks the disk. -/
def ofDisk
    {α : Type}
    (result : Except DiskFault α) :
    Journal α :=
  ofExcept (result.mapError .disk)

/-- A step that looks into a value. -/
def ofKind
    {α : Type}
    (result : Except KindFault α) :
    Journal α :=
  ofExcept (result.mapError .kind)

end Journal

end LineTally
