import LineTally.Proofs.Disk.Destination
import LineTally.Proofs.Disk.WellNamed
import LineTally.Proofs.Path.Text

namespace LineTally

/-!
# Proper trees

On a way through a tree single and double dots are no names of entries, and names that are
too long are refused.  A tree is proper if it is well-named and has no such names; a file
that is written into it gets no such name either, so the tree stays proper.
-/

namespace Node

/-- A name that is taken for the name of an entry wherever it is on a way. -/
def IsPlainName
    (name : Text) :
    Prop :=
  name ≠ ['.'] ∧ name ≠ ['.', '.'] ∧ Utf8.size name ≤ Disk.maxNameSize

instance (name : Text) : Decidable (IsPlainName name) :=
  inferInstanceAs (Decidable (_ ∧ _))

/-- A well-named tree in which every name of an entry is taken as such on a way. -/
structure Proper
    (tree : Node) :
    Prop where
  wellNamed : tree.WellNamed
  plain :
    ∀ names shape, tree.shapeAt? names = some shape → ∀ name ∈ names, IsPlainName name

/-- The names that lead to a node of a proper tree. -/
theorem Proper.names
    {tree : Node}
    (proper : tree.Proper)
    {names : List Text}
    {shape : Shape}
    (found : tree.shapeAt? names = some shape) :
    ∀ name ∈ names, IsEntryName name ∧ IsPlainName name := by
  obtain ⟨node, isNode, _⟩ := Option.map_eq_some_iff.mp found
  intro name member
  exact ⟨(proper.wellNamed.find? isNode).2 name member, proper.plain names shape found name member⟩

/-- What is no folder is proper. -/
theorem proper_of_not_isFolder
    {node : Node}
    (notFolder : node.isFolder = false) :
    node.Proper := by
  cases node with
  | folder entries =>
      cases notFolder
  | file body =>
      refine ⟨.file body, ?_⟩
      rintro (_ | ⟨name, rest⟩) shape found
      · simp
      · cases found
  | link target =>
      refine ⟨.link target, ?_⟩
      rintro (_ | ⟨name, rest⟩) shape found
      · simp
      · cases found

/-- A folder is proper if its entries have plain names of their own and are proper, too. -/
theorem proper_folder
    {entries : List (Text × Node)}
    (distinct : (entries.map Prod.fst).Nodup)
    (named : ∀ entry ∈ entries, IsEntryName entry.1 ∧ IsPlainName entry.1)
    (below : ∀ entry ∈ entries, entry.2.Proper) :
    (folder entries).Proper := by
  have wellNamed : (folder entries).WellNamed :=
    .folder distinct (fun entry member => (named entry member).1)
      fun entry member => (below entry member).wellNamed
  refine ⟨wellNamed, ?_⟩
  rintro (_ | ⟨first, rest⟩) shape found
  · simp
  · obtain ⟨child, member, foundBelow⟩ := wellNamed.shapeAt?_cons_iff.mp found
    exact List.forall_mem_cons.mpr
      ⟨(named _ member).2, (below _ member).plain rest shape foundBelow⟩

/-- What is among some entries after a node is put under a name. -/
theorem mem_putEntry
    {name : Text}
    {node : Node}
    {entries : List (Text × Node)}
    {entry : Text × Node}
    (member : entry ∈ putEntry name node entries) :
    entry = (name, node) ∨ entry ∈ entries := by
  induction entries with
  | nil =>
      exact .inl (List.mem_singleton.mp member)
  | cons first rest inductionHypothesis =>
      rw [putEntry] at member
      split_ifs at member
      · rcases List.mem_cons.mp member with same | later
        · exact .inl same
        · exact .inr (List.mem_cons_of_mem _ later)
      · rcases List.mem_cons.mp member with same | later
        · exact .inr (List.mem_cons.mpr (.inl same))
        · exact (inductionHypothesis later).imp_right (List.mem_cons_of_mem _)

/-- Under a name that is new or not, names stay different. -/
theorem nodup_putEntry
    {entries : List (Text × Node)}
    (distinct : (entries.map Prod.fst).Nodup)
    (name : Text)
    (node : Node) :
    ((putEntry name node entries).map Prod.fst).Nodup := by
  induction entries with
  | nil =>
      simp [putEntry]
  | cons first rest inductionHypothesis =>
      rw [List.map_cons, List.nodup_cons] at distinct
      rw [putEntry]
      split_ifs with same
      · rw [List.map_cons, List.nodup_cons, ← same]
        exact distinct
      · rw [List.map_cons, List.nodup_cons]
        refine ⟨?_, inductionHypothesis distinct.2⟩
        intro repeated
        obtain ⟨entry, member, sameName⟩ := List.mem_map.mp repeated
        rcases mem_putEntry member with rfl | later
        · exact same sameName.symm
        · exact distinct.1 (List.mem_map.mpr ⟨entry, later, sameName⟩)

/-- A well-named tree stays so if a file is put at the end of proper names. -/
theorem WellNamed.put
    {tree : Node}
    (wellNamed : tree.WellNamed)
    {names : List Text}
    (named : ∀ name ∈ names, IsEntryName name)
    (body : FileBody) :
    (tree.put names (.file body)).WellNamed := by
  induction names generalizing tree with
  | nil =>
      cases tree <;> exact .file body
  | cons name rest inductionHypothesis =>
      obtain ⟨nameNamed, restNamed⟩ := List.forall_mem_cons.mp named
      cases tree with
      | file other =>
          exact wellNamed
      | link target =>
          exact wellNamed
      | folder entries =>
          have childNamed : ((entries.lookup name).getD (.folder [])).WellNamed := by
            cases listed : entries.lookup name with
            | none =>
                exact wellNamed_folder_iff.mpr (by simp)
            | some child =>
                exact wellNamed.entry ((Text.lookup_eq_some_iff_mem wellNamed.distinct).mp listed)
          obtain ⟨distinct, entriesNamed, below⟩ := wellNamed_folder_iff.mp wellNamed
          rw [Node.put]
          refine .folder (nodup_putEntry distinct _ _) ?_ ?_
          · intro entry member
            rcases mem_putEntry member with rfl | isOld
            · exact nameNamed
            · exact entriesNamed entry isOld
          · intro entry member
            rcases mem_putEntry member with rfl | isOld
            · exact inductionHypothesis childNamed restNamed
            · exact below entry isOld

end Node

namespace Disk

/-- The last of some names, if there is one, has no slash in it. -/
def EndsWithoutSlash
    (names : List Text) :
    Prop :=
  ∀ last ∈ names.getLast?, '/' ∉ last

/-- What is left after a name ends without a slash, too. -/
theorem EndsWithoutSlash.tail
    {name : Text}
    {rest : List Text}
    (noSlash : EndsWithoutSlash (name :: rest)) :
    EndsWithoutSlash rest := by
  intro last isLast
  apply noSlash
  rw [List.getLast?_cons, Option.mem_def.mp isLast]
  rfl

/-- After the names of the target of a link, names end without a slash as they did before. -/
theorem EndsWithoutSlash.afterTarget
    {rest : List Text}
    (noSlash : EndsWithoutSlash rest)
    (target : Text) :
    EndsWithoutSlash (targetNames target ++ rest) := by
  have targetNoSlash : ∀ name ∈ targetNames target, '/' ∉ name := by
    intro name member
    have isPartOrEmpty : name ∈ target.splitOn '/' ∨ name = slashName := by
      rw [targetNames] at member
      split_ifs at member
      · rcases List.mem_append.mp member with isName | isEnd
        · exact .inl (List.mem_filter.mp isName).1
        · exact .inr (List.mem_singleton.mp isEnd)
      · exact .inl (List.mem_filter.mp member).1
    rcases isPartOrEmpty with isPart | rfl
    · exact Path.slash_not_mem_of_mem_splitOn isPart
    · exact List.not_mem_nil
  intro last isLast
  rw [List.getLast?_append, Option.mem_def, Option.or_eq_some_iff] at isLast
  rcases isLast with isLast | ⟨_, isTargetLast⟩
  · exact noSlash last isLast
  · exact targetNoSlash last (List.mem_of_getLast? isTargetLast)

/-- A way that ends at nothing ends at a name that an entry can have. -/
theorem named_of_follow
    {root : Node}
    {purpose : Purpose}
    {onLink : List Text → List Text → Except DiskError Place}
    (ofLink :
      ∀ folder names place, root.shapeAt? folder ≠ none → EndsWithoutSlash names →
        onLink folder names = .ok place → root.shapeAt? place.names = none →
        ∃ last ∈ place.names.getLast?, Node.IsEntryName last ∧ Node.IsPlainName last)
    {folder names : List Text}
    (starts : root.shapeAt? folder ≠ none)
    (noSlash : EndsWithoutSlash names)
    {place : Place}
    (arrived : follow root purpose onLink folder names = .ok place)
    (nothing : root.shapeAt? place.names = none) :
    ∃ last ∈ place.names.getLast?, Node.IsEntryName last ∧ Node.IsPlainName last := by
  induction names generalizing folder with
  | nil =>
      cases arrived
      exact (starts nothing).elim
  | cons name rest inductionHypothesis =>
      rw [follow_cons] at arrived
      split at arrived
      next isFolder =>
        split_ifs at arrived with _ skipped up tooLong
        · exact inductionHypothesis starts noSlash.tail arrived
        · refine inductionHypothesis ?_ noSlash.tail arrived
          rw [Node.shapeAt?_dropLast isFolder]
          exact Option.some_ne_none _
        · split at arrived
          next =>
            cases arrived
            simp only [Bool.or_eq_true, decide_eq_true_eq, not_or] at skipped
            refine ⟨name, List.getLast?_concat, ⟨skipped.1, noSlash name rfl⟩, ?_⟩
            exact ⟨skipped.2, up, Nat.le_of_not_lt tooLong⟩
          next =>
            cases arrived
          next target _ =>
            split_ifs at arrived
            refine ofLink _ _ _ ?_ (noSlash.tail.afterTarget target) arrived nothing
            rw [targetStart]
            split_ifs
            · rw [Node.shapeAt?_nil_of_folder isFolder]
              exact Option.some_ne_none _
            · exact starts
          next shape _ found =>
            refine inductionHypothesis ?_ noSlash.tail arrived
            rw [found]
            exact Option.some_ne_none _
      next =>
        cases arrived
      next =>
        cases arrived

/-- A way over links that ends at nothing ends at a name that an entry can have. -/
theorem named_of_followLinks
    {root : Node}
    {purpose : Purpose}
    {links : Nat}
    {folder names : List Text}
    (starts : root.shapeAt? folder ≠ none)
    (noSlash : EndsWithoutSlash names)
    {place : Place}
    (arrived : followLinks root purpose links folder names = .ok place)
    (nothing : root.shapeAt? place.names = none) :
    ∃ last ∈ place.names.getLast?, Node.IsEntryName last ∧ Node.IsPlainName last := by
  induction links generalizing folder names place with
  | zero =>
      apply named_of_follow _ starts noSlash arrived nothing
      intro _ _ _ _ _ linked
      cases linked
  | succ links inductionHypothesis =>
      exact named_of_follow (fun _ _ _ starts noSlash => inductionHypothesis starts noSlash)
        starts noSlash arrived nothing

namespace Wrote

variable
  {disk later : Disk}
  {path : Path}
  {content : List UInt8}
  {place : List Text}

/-- The names that lead to a file that has been written are names that entries can have. -/
theorem names
    (wrote : disk.Wrote later path content place)
    (proper : disk.root.Proper)
    (noSlash : EndsWithoutSlash path.parts) :
    ∀ name ∈ place, Node.IsEntryName name ∧ Node.IsPlainName name := by
  cases found : disk.root.shapeAt? place with
  | some shape =>
      exact proper.names found
  | none =>
      obtain ⟨node, resolved⟩ := wrote.resolved
      rw [resolveFor] at resolved
      split_ifs at resolved
      have starts : disk.root.shapeAt? (disk.start path) ≠ none := by
        rw [wrote.startIsFolder]
        exact Option.some_ne_none _
      obtain ⟨last, isLast, lastNamed⟩ := named_of_followLinks starts noSlash resolved found
      obtain ⟨front, rfl⟩ := List.getLast?_eq_some_iff.mp isLast
      have parent := wrote.parent
      rw [List.dropLast_concat] at parent
      intro name member
      rcases List.mem_append.mp member with inFront | atEnd
      · exact proper.names parent name inFront
      · rwa [List.mem_singleton.mp atEnd]

/-- A tree stays proper if a file is written into it. -/
theorem proper
    (wrote : disk.Wrote later path content place)
    (proper : disk.root.Proper)
    (noSlash : EndsWithoutSlash path.parts) :
    later.root.Proper where
  wellNamed := by
    rw [wrote.root]
    exact proper.wellNamed.put
      (fun name member => (wrote.names proper noSlash name member).1) (.bytes content)
  plain := by
    intro names shape found name member
    by_cases atPlace : names = place
    · subst atPlace
      exact (wrote.names proper noSlash name member).2
    · rw [wrote.edits.elsewhere names atPlace] at found
      exact proper.plain names shape found name member

end Wrote

end Disk

end LineTally
