import LineTally.Proofs.Charset.RoundTrip
import LineTally.Proofs.Disk.Content

namespace LineTally

/-!
# Files that hold a text

What the reports and the settings files of a run are: files in UTF-8, read strictly.  Such
a file holds one text, and it has just the bytes of this text.
-/

namespace Disk

/-- The file that a path leads to is this text, read as UTF-8 with its line ends as they are. -/
def HoldsText
    (disk : Disk)
    (path : Path)
    (text : Text) :
    Prop :=
  ∃ content, disk.read path = .ok content ∧ Charset.utf8.decode .strict content = .ok text

/-- Bytes that can be read are those that the path leads to. -/
theorem content?_of_read
    {disk : Disk}
    {path : Path}
    {content : List UInt8}
    (found : disk.read path = .ok content) :
    disk.content? path = some content := by
  rw [read] at found
  split_ifs at found with nul
  split at found
  next names file resolved =>
    cases found
    have node := node_of_resolveFor resolved
    rw [content?, place?, if_neg nul, resolved, Option.bind_some, Node.fileAt?_eq_some_iff]
    exact node.symm
  all_goals cases found

/-- A file is a text exactly if it has the bytes of the text. -/
theorem holdsText_iff
    {disk : Disk}
    {path : Path}
    {text : Text} :
    disk.HoldsText path text ↔ disk.content? path = some (Utf8.encode text) := by
  constructor
  · rintro ⟨content, found, decoded⟩
    rw [content?_of_read found, Charset.decode_utf8_strict_iff.mp decoded]
  · intro found
    exact ⟨_, read_of_content? found, Charset.decode_utf8_strict_iff.mpr rfl⟩

/-- A file is one text only. -/
theorem HoldsText.unique
    {disk : Disk}
    {path : Path}
    {text other : Text}
    (holds : disk.HoldsText path text)
    (holdsOther : disk.HoldsText path other) :
    text = other := by
  rw [holdsText_iff] at holds holdsOther
  exact Utf8.encode_injective (Option.some.inj (holds.symm.trans holdsOther))

end Disk

end LineTally
