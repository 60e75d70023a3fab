import LineTally.Proofs.Disk.FileEdits
import LineTally.Proofs.Text.Names

namespace LineTally

/-!
# Writing and removing one file

To write a file or to remove one edits this file only: it changes nothing at any
other place of the tree.
-/

namespace Node

/-- What is listed under a name after a node is put under one. -/
theorem lookup_putEntry
    (name : Text)
    (node : Node)
    (entries : List (Text × Node))
    (other : Text) :
    (putEntry name node entries).lookup other =
      if other = name then some node else entries.lookup other := by
  induction entries with
  | nil =>
      rw [putEntry, Text.lookup_cons_eq]
  | cons entry rest inductionHypothesis =>
      obtain ⟨first, firstNode⟩ := entry
      rw [putEntry]
      by_cases atFirst : first = name
      · subst atFirst
        rw [if_pos rfl, Text.lookup_cons_eq, Text.lookup_cons_eq]
        split_ifs <;> rfl
      · rw [if_neg atFirst, Text.lookup_cons_eq, Text.lookup_cons_eq, inductionHypothesis]
        split_ifs with same named
        · exact (atFirst (same.symm.trans named)).elim
        all_goals rfl

/-- What is listed under a name after another one is taken out. -/
theorem lookup_filter_ne
    (name : Text)
    (entries : List (Text × Node))
    (other : Text) :
    (entries.filter fun entry => entry.1 ≠ name).lookup other =
      if other = name then none else entries.lookup other := by
  induction entries with
  | nil =>
      split_ifs <;> rfl
  | cons entry rest inductionHypothesis =>
      obtain ⟨first, firstNode⟩ := entry
      by_cases atFirst : first = name
      · subst atFirst
        rw [List.filter_cons_of_neg (by simp), inductionHypothesis, Text.lookup_cons_eq]
        split_ifs <;> rfl
      · rw [List.filter_cons_of_pos (by simpa using atFirst), Text.lookup_cons_eq,
          inductionHypothesis, Text.lookup_cons_eq]
        split_ifs with same named
        · exact (atFirst (same.symm.trans named)).elim
        all_goals rfl

/-- What is at the end of some names below a folder is below the entry of the first one. -/
theorem shapeAt?_folder_cons
    (entries : List (Text × Node))
    (name : Text)
    (rest : List Text) :
    (folder entries).shapeAt? (name :: rest) =
      (entries.lookup name).bind (·.shapeAt? rest) := by
  simp only [shapeAt?, find?, child?]
  cases entries.lookup name <;> rfl

/-- What is above a folder is a folder, too. -/
theorem shapeAt?_dropLast
    {tree : Node}
    {names : List Text}
    (isFolder : tree.shapeAt? names = some .folder) :
    tree.shapeAt? names.dropLast = some .folder := by
  rcases List.eq_nil_or_concat names with rfl | ⟨front, last, rfl⟩
  · exact isFolder
  · rw [List.concat_eq_append, shapeAt?, find?_concat] at isFolder
    obtain ⟨child, foundChild, _⟩ := Option.map_eq_some_iff.mp isFolder
    obtain ⟨node, found, listed⟩ := Option.bind_eq_some_iff.mp foundChild
    rw [List.concat_eq_append, List.dropLast_concat, shapeAt?, found]
    cases node with
    | file body =>
        cases listed
    | link target =>
        cases listed
    | folder entries =>
        rfl

/-- A tree with a folder somewhere is a folder itself. -/
theorem shapeAt?_nil_of_folder
    {tree : Node}
    {names : List Text}
    (isFolder : tree.shapeAt? names = some .folder) :
    tree.shapeAt? [] = some .folder := by
  cases names with
  | nil =>
      exact isFolder
  | cons name rest =>
      cases tree with
      | file body =>
          cases isFolder
      | link target =>
          cases isFolder
      | folder entries =>
          rfl

/-- Nothing is below an entry of a folder that is a file or not there at all. -/
theorem shapeAt?_below_fileOrNothing
    {entries : List (Text × Node)}
    {name : Text}
    (fileOrNothing : (folder entries).FileOrNothing [name])
    (next : Text)
    (rest : List Text) :
    (folder entries).shapeAt? (name :: next :: rest) = none := by
  rw [shapeAt?_folder_cons]
  cases listed : entries.lookup name with
  | none =>
      rfl
  | some node =>
      rw [FileOrNothing, shapeAt?_folder_cons, listed] at fileOrNothing
      cases node with
      | file body =>
          rfl
      | link target =>
          rfl
      | folder entries =>
          rcases fileOrNothing with nothing | ⟨body, isFile⟩
          · cases nothing
          · cases isFile

/-- Two trees differ only in whether there is a file at the given names, and in its bytes. -/
structure EditsFile
    (names : List Text)
    (tree later : Node) :
    Prop where
  elsewhere : ∀ other, other ≠ names → later.shapeAt? other = tree.shapeAt? other
  before : tree.FileOrNothing names
  after : later.FileOrNothing names

namespace EditsFile

/-- To edit one file is to edit files. -/
theorem editsFiles
    {names : List Text}
    {tree later : Node}
    (edits : EditsFile names tree later) :
    tree.EditsFiles later := by
  intro other
  by_cases same : other = names
  · subst same
    exact .inr ⟨edits.before, edits.after⟩
  · exact .inl (edits.elsewhere other same)

/-- A tree that has a file or nothing at some names is an edit of itself there. -/
theorem unchanged
    {names : List Text}
    {tree : Node}
    (before : tree.FileOrNothing names) :
    EditsFile names tree tree :=
  ⟨fun _ _ => rfl, before, before⟩

/-- To change an entry that is a file or not there is to edit one file. -/
theorem entry
    {name : Text}
    {entries laterEntries : List (Text × Node)}
    (others : ∀ other, other ≠ name → laterEntries.lookup other = entries.lookup other)
    (before : (folder entries).FileOrNothing [name])
    (after : (folder laterEntries).FileOrNothing [name]) :
    EditsFile [name] (folder entries) (folder laterEntries) := by
  refine ⟨?_, before, after⟩
  rintro (_ | ⟨first, rest⟩) notName
  · rfl
  by_cases same : first = name
  · subst same
    cases rest with
    | nil =>
        exact (notName rfl).elim
    | cons next rest =>
        rw [shapeAt?_below_fileOrNothing before, shapeAt?_below_fileOrNothing after]
  · rw [shapeAt?_folder_cons, shapeAt?_folder_cons, others first same]

/-- To edit one file below an entry is to edit one file. -/
theorem below
    {name : Text}
    {names : List Text}
    {entries : List (Text × Node)}
    {child laterChild : Node}
    (listed : entries.lookup name = some child)
    (edits : EditsFile names child laterChild) :
    EditsFile (name :: names)
      (folder entries) (folder (putEntry name laterChild entries)) := by
  have before := edits.before
  have after := edits.after
  refine ⟨?_, ?_, ?_⟩
  · rintro (_ | ⟨first, rest⟩) notSame
    · rfl
    rw [shapeAt?_folder_cons, shapeAt?_folder_cons, lookup_putEntry]
    split_ifs with same
    · subst same
      rw [listed]
      exact edits.elsewhere rest (fun sameRest => notSame (sameRest ▸ rfl))
    · rfl
  · rwa [FileOrNothing, shapeAt?_folder_cons, listed]
  · rwa [FileOrNothing, shapeAt?_folder_cons, lookup_putEntry, if_pos rfl]

/-- To put a file into a folder in the place of a file or of nothing is to edit one file. -/
theorem put
    {tree : Node}
    {names : List Text}
    (body : FileBody)
    (parent : tree.shapeAt? names.dropLast = some .folder)
    (before : tree.FileOrNothing names) :
    EditsFile names tree (tree.put names (.file body)) := by
  induction names generalizing tree with
  | nil =>
      rcases before with nothing | ⟨_, isFile⟩
      · cases parent.symm.trans nothing
      · cases parent.symm.trans isFile
  | cons name rest inductionHypothesis =>
      cases tree with
      | file _ =>
          cases shapeAt?_nil_of_folder parent
      | link _ =>
          cases shapeAt?_nil_of_folder parent
      | folder entries =>
          cases rest with
          | nil =>
              refine entry ?_ before ?_
              · intro other notName
                rw [lookup_putEntry, if_neg notName]
              · rw [FileOrNothing, shapeAt?_folder_cons, lookup_putEntry, if_pos rfl]
                exact .inr ⟨body, by rw [Node.put]; rfl⟩
          | cons next rest =>
              rw [List.dropLast_cons_cons, shapeAt?_folder_cons] at parent
              rw [FileOrNothing, shapeAt?_folder_cons] at before
              rw [Node.put]
              cases listed : entries.lookup name with
              | none =>
                  rw [listed] at parent
                  cases parent
              | some child =>
                  rw [listed] at parent before
                  exact below listed (inductionHypothesis parent before)

/-- To take a file out is to edit one file. -/
theorem erase
    {tree : Node}
    {names : List Text}
    (before : tree.FileOrNothing names) :
    EditsFile names tree (tree.erase names) := by
  induction names generalizing tree with
  | nil =>
      cases tree <;> exact unchanged before
  | cons name rest inductionHypothesis =>
      cases tree with
      | file body =>
          cases rest <;> exact unchanged before
      | link target =>
          cases rest <;> exact unchanged before
      | folder entries =>
          cases rest with
          | nil =>
              refine entry ?_ before ?_
              · intro other notName
                rw [lookup_filter_ne, if_neg notName]
              · rw [FileOrNothing, shapeAt?_folder_cons, lookup_filter_ne, if_pos rfl]
                exact .inl rfl
          | cons next rest =>
              rw [Node.erase]
              · cases listed : entries.lookup name with
                | none =>
                    exact unchanged before
                | some child =>
                    rw [FileOrNothing, shapeAt?_folder_cons, listed] at before
                    exact below listed (inductionHypothesis before)
              · exact List.cons_ne_nil next rest

end EditsFile

/--
A place that a way can end at: a folder, or what is a file or nothing in a folder.
No way ends at a link.
-/
def Reachable
    (tree : Node)
    (names : List Text) :
    Prop :=
  tree.shapeAt? names = some .folder ∨
    tree.FileOrNothing names ∧ tree.shapeAt? names.dropLast = some .folder

end Node

namespace Disk

/-- A way from a place that can be reached ends at one. -/
theorem reachable_of_follow
    {root : Node}
    {purpose : Purpose}
    {onLink : List Text → List Text → Except DiskError Place}
    (ofLink :
      ∀ folder names place, root.Reachable folder → onLink folder names = .ok place →
        root.Reachable place.names)
    {folder names : List Text}
    {place : Place}
    (reachable : root.Reachable folder)
    (arrived : follow root purpose onLink folder names = .ok place) :
    root.Reachable place.names := by
  induction names generalizing folder with
  | nil =>
      cases arrived
      exact reachable
  | cons name rest inductionHypothesis =>
      rw [follow_cons] at arrived
      split at arrived
      next isFolder =>
        have parent : root.shapeAt? (folder ++ [name]).dropLast = some .folder := by
          rwa [List.dropLast_concat]
        split_ifs at arrived
        · exact inductionHypothesis reachable arrived
        · exact inductionHypothesis (.inl (Node.shapeAt?_dropLast isFolder)) arrived
        · split at arrived
          next nothing _ =>
            cases arrived
            exact .inr ⟨.inl nothing, parent⟩
          next =>
            cases arrived
          next target _ =>
            split_ifs at arrived
            refine ofLink _ _ _ ?_ arrived
            rw [targetStart]
            split_ifs
            · exact .inl (Node.shapeAt?_nil_of_folder isFolder)
            · exact reachable
          next shape notLink entry _ =>
            apply inductionHypothesis _ arrived
            cases shape with
            | file body =>
                exact .inr ⟨.inr ⟨body, entry⟩, parent⟩
            | link target =>
                exact (notLink target rfl).elim
            | folder =>
                exact .inl entry
      next =>
        cases arrived
      next =>
        cases arrived

/-- A way over links from a place that can be reached ends at one. -/
theorem reachable_of_followLinks
    {root : Node}
    {purpose : Purpose}
    {links : Nat}
    {folder names : List Text}
    {place : Place}
    (reachable : root.Reachable folder)
    (arrived : followLinks root purpose links folder names = .ok place) :
    root.Reachable place.names := by
  induction links generalizing folder names place with
  | zero =>
      apply reachable_of_follow _ reachable arrived
      intro _ _ _ _ linked
      cases linked
  | succ links inductionHypothesis =>
      exact reachable_of_follow (fun _ _ _ => inductionHypothesis) reachable arrived

/-- If the working folder is there, so is the folder that a path starts from. -/
theorem shapeAt?_start
    {disk : Disk}
    (hereIsFolder : disk.root.shapeAt? disk.here = some .folder)
    (path : Path) :
    disk.root.shapeAt? (disk.start path) = some .folder := by
  rw [start]
  split_ifs
  · exact hereIsFolder
  · exact Node.shapeAt?_nil_of_folder hereIsFolder

/-- A path that starts from a folder is resolved to a place that can be reached. -/
theorem reachable_of_resolveFor
    {disk : Disk}
    {purpose : Purpose}
    {path : Path}
    {place : Place}
    (startIsFolder : disk.root.shapeAt? (disk.start path) = some .folder)
    (resolved : disk.resolveFor purpose path = .ok place) :
    disk.root.Reachable place.names := by
  rw [resolveFor] at resolved
  split_ifs at resolved
  exact reachable_of_followLinks (.inl startIsFolder) resolved

/-- To write a file edits the file at the place that its path leads to, and no other. -/
theorem editsFile_of_write
    {disk later : Disk}
    {path : Path}
    {content : List UInt8}
    (startIsFolder : disk.root.shapeAt? (disk.start path) = some .folder)
    (written : disk.write path content = .ok later) :
    ∃ place, disk.resolveFor .create path = .ok place ∧ later.here = disk.here ∧
      Node.EditsFile place.names disk.root later.root := by
  rw [write] at written
  split_ifs at written
  split at written
  next =>
    cases written
  next =>
    cases written
  next place isNoFolder _ resolved =>
    cases written
    refine ⟨place, resolved, rfl, ?_⟩
    have node := node_of_resolveFor resolved
    rcases reachable_of_resolveFor startIsFolder resolved with
      isFolder | ⟨before, parent⟩
    · obtain ⟨folder, found, shape⟩ := Option.map_eq_some_iff.mp isFolder
      cases folder with
      | file _ =>
          cases shape
      | link _ =>
          cases shape
      | folder entries =>
          exact (isNoFolder place.names entries (by rw [← found, ← node])).elim
    · exact .put (.bytes content) parent before
  next =>
    cases written

/-- To remove a file edits the file at the place of its path, and no other. -/
theorem editsFile_of_remove
    {disk later : Disk}
    {path : Path}
    (isFile : disk.root.FileOrNothing (disk.placeOf path))
    (removed : disk.remove path = .ok later) :
    later.here = disk.here ∧
      Node.EditsFile (disk.placeOf path) disk.root later.root := by
  rw [remove] at removed
  cases found : disk.root.find? (disk.placeOf path) with
  | none =>
      rw [found] at removed
      cases removed
  | some node =>
      rw [found] at removed
      cases removed
      exact ⟨rfl, .erase isFile⟩

end Disk

end LineTally
