import LineTally.Disk.Walk
import LineTally.Proofs.Disk.Writing
import Mathlib.Data.List.Nodup

namespace LineTally

/-!
# Well-named trees

In a folder no two entries have the same name, and no name is empty or has a slash in
it.  In a tree of such folders the entries of a folder are the nodes that its names
find, in whatever order the entries are held.
-/

namespace Node

/-- A name that an entry of a folder can have. -/
def IsEntryName
    (name : Text) :
    Prop :=
  name ≠ [] ∧ '/' ∉ name

instance (name : Text) : Decidable (IsEntryName name) :=
  inferInstanceAs (Decidable (_ ∧ _))

/-- A tree in whose folders every entry has a proper name of its own. -/
inductive WellNamed : Node → Prop where
  | file (body : FileBody) :
      WellNamed (.file body)
  | link (target : Text) :
      WellNamed (.link target)
  | folder {entries : List (Text × Node)}
      (distinct : (entries.map Prod.fst).Nodup)
      (named : ∀ entry ∈ entries, IsEntryName entry.1)
      (below : ∀ entry ∈ entries, WellNamed entry.2) :
      WellNamed (.folder entries)

/-- A folder is well-named if its entries have proper names of their own and are so, too. -/
theorem wellNamed_folder_iff
    {entries : List (Text × Node)} :
    (folder entries).WellNamed ↔
      (entries.map Prod.fst).Nodup ∧
        (∀ entry ∈ entries, IsEntryName entry.1) ∧
        ∀ entry ∈ entries, WellNamed entry.2 := by
  constructor
  · intro wellNamed
    cases wellNamed with
    | folder distinct named below =>
        exact ⟨distinct, named, below⟩
  · rintro ⟨distinct, named, below⟩
    exact .folder distinct named below

attribute [simp] WellNamed.file WellNamed.link

namespace WellNamed

/-- What is below some names in a well-named tree is well-named, and so are the names. -/
theorem find?
    {tree node : Node}
    {names : List Text}
    (wellNamed : tree.WellNamed)
    (found : tree.find? names = some node) :
    node.WellNamed ∧ ∀ name ∈ names, IsEntryName name := by
  induction names generalizing tree with
  | nil =>
      cases found
      exact ⟨wellNamed, by simp⟩
  | cons name rest inductionHypothesis =>
      cases wellNamed with
      | file body =>
          cases found
      | link target =>
          cases found
      | @folder entries distinct named below =>
          rw [Node.find?, child?] at found
          split at found
          next child listed =>
            have member := (Text.lookup_eq_some_iff_mem distinct).mp listed
            obtain ⟨nodeWellNamed, restNamed⟩ := inductionHypothesis (below _ member) found
            exact ⟨nodeWellNamed, List.forall_mem_cons.mpr ⟨named _ member, restNamed⟩⟩
          next =>
            cases found

section Folder

variable
  {entries : List (Text × Node)}
  (wellNamed : (Node.folder entries).WellNamed)

include wellNamed

/-- The entries of a well-named folder are under different names. -/
theorem distinct : (entries.map Prod.fst).Nodup :=
  (wellNamed_folder_iff.mp wellNamed).1

/-- The entries of a well-named folder are well-named. -/
theorem entry
    {name : Text}
    {child : Node}
    (member : (name, child) ∈ entries) :
    child.WellNamed :=
  (wellNamed_folder_iff.mp wellNamed).2.2 _ member

/-- What is below a well-named folder is below one of its entries. -/
theorem shapeAt?_cons_iff
    {name : Text}
    {rest : List Text}
    {shape : Shape} :
    (Node.folder entries).shapeAt? (name :: rest) = some shape ↔
      ∃ child, (name, child) ∈ entries ∧ child.shapeAt? rest = some shape := by
  rw [shapeAt?_folder_cons, Option.bind_eq_some_iff]
  simp only [Text.lookup_eq_some_iff_mem wellNamed.distinct]

end Folder

end WellNamed

end Node

end LineTally
