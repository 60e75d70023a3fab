import LineTally.Proofs.Disk.Writing

namespace LineTally

/-!
# What has been written

A way that a file can be made on leads to the same place when it is only looked at, so a
file that has been written is found where its path leads.  A tree keeps the last node
that is put at some names and nothing of those before, and to put a node where it is
already changes nothing; that is what writing a file again comes down to.
-/

namespace Node

/-- An entry that is put where it is already changes nothing. -/
theorem putEntry_self
    {name : Text}
    {node : Node}
    {entries : List (Text × Node)}
    (listed : entries.lookup name = some node) :
    putEntry name node entries = entries := by
  induction entries with
  | nil =>
      cases listed
  | cons entry rest inductionHypothesis =>
      obtain ⟨first, firstNode⟩ := entry
      rw [Text.lookup_cons_eq] at listed
      rw [putEntry]
      by_cases same : name = first
      · subst same
        rw [if_pos rfl, Option.some.injEq] at listed
        rw [if_pos rfl, listed]
      · rw [if_neg same] at listed
        rw [if_neg fun other => same other.symm, inductionHypothesis listed]

/-- Of two entries that are put under a name the second one is kept. -/
theorem putEntry_putEntry
    (name : Text)
    (node later : Node)
    (entries : List (Text × Node)) :
    putEntry name later (putEntry name node entries) = putEntry name later entries := by
  induction entries with
  | nil =>
      simp [putEntry]
  | cons entry rest inductionHypothesis =>
      by_cases same : entry.1 = name <;> simp [putEntry, same, inductionHypothesis]

/-- A node that is put where it is already changes nothing. -/
theorem put_self
    {tree placed : Node}
    {names : List Text}
    (found : tree.find? names = some placed) :
    tree.put names placed = tree := by
  induction names generalizing tree with
  | nil =>
      cases found
      cases placed <;> rfl
  | cons name rest inductionHypothesis =>
      cases tree with
      | file content =>
          rfl
      | link target =>
          rfl
      | folder entries =>
          rw [find?, child?] at found
          split at found
          next child listed =>
            rw [put, listed, Option.getD_some, inductionHypothesis found, putEntry_self listed]
          next =>
            cases found

/-- Of two nodes that are put at some names the second one is kept. -/
theorem put_put
    (tree : Node)
    (names : List Text)
    (placed later : Node) :
    (tree.put names placed).put names later = tree.put names later := by
  induction names generalizing tree with
  | nil =>
      cases tree <;> cases placed <;> rfl
  | cons name rest inductionHypothesis =>
      cases tree with
      | file content =>
          rfl
      | link target =>
          rfl
      | folder entries =>
          rw [put, put, lookup_putEntry, if_pos rfl, Option.getD_some, putEntry_putEntry,
            inductionHypothesis, put]

/-- A node that is put into a folder is found there. -/
theorem find?_put
    {tree : Node}
    {names : List Text}
    (parent : tree.shapeAt? names.dropLast = some .folder)
    (placed : Node) :
    (tree.put names placed).find? names = some placed := by
  induction names generalizing tree with
  | nil =>
      cases tree <;> rfl
  | cons name rest inductionHypothesis =>
      have isFolder := shapeAt?_nil_of_folder parent
      obtain ⟨entries, rfl⟩ := shape_eq_folder_iff.mp (Option.some.inj isFolder)
      rw [put, find?, child?, lookup_putEntry, if_pos rfl]
      cases rest with
      | nil =>
          cases (entries.lookup name).getD (.folder []) <;> rfl
      | cons next rest =>
          rw [List.dropLast_cons_cons, shapeAt?_folder_cons] at parent
          obtain ⟨child, listed, below⟩ := Option.bind_eq_some_iff.mp parent
          rw [listed]
          exact inductionHypothesis below

end Node

namespace Disk

/-- A way that a file can be made on is the same when it is only looked at. -/
theorem follow_look_of_create
    {root : Node}
    {onCreate onLook : List Text → List Text → Except DiskError Place}
    (ofLink :
      ∀ folder names place, onCreate folder names = .ok place → onLook folder names = .ok place)
    {folder names : List Text}
    {place : Place}
    (arrived : follow root .create onCreate folder names = .ok place) :
    follow root .look onLook folder names = .ok place := by
  induction names generalizing folder with
  | nil =>
      exact arrived
  | cons name rest inductionHypothesis =>
      rw [follow_cons] at arrived ⊢
      split at arrived
      · simp only [reduceCtorEq, decide_false, Bool.false_and, Bool.false_eq_true, if_false]
        split_ifs at arrived ⊢
        · exact inductionHypothesis arrived
        · exact inductionHypothesis arrived
        · split at arrived
          · exact arrived
          · cases arrived
          · split_ifs at arrived ⊢
            exact ofLink _ _ _ arrived
          · exact inductionHypothesis arrived
      · cases arrived
      · cases arrived

/-- A way over links that a file can be made on is the same when it is only looked at. -/
theorem followLinks_look_of_create
    {root : Node}
    {links : Nat}
    {folder names : List Text}
    {place : Place}
    (arrived : followLinks root .create links folder names = .ok place) :
    followLinks root .look links folder names = .ok place := by
  induction links generalizing folder names place with
  | zero =>
      apply follow_look_of_create _ arrived
      intro _ _ _ linked
      cases linked
  | succ links inductionHypothesis =>
      exact follow_look_of_create (fun _ _ _ => inductionHypothesis) arrived

/-- A path under which a file can be made leads to the place of the file. -/
theorem resolve_of_resolveFor_create
    {disk : Disk}
    {path : Path}
    {place : Place}
    (resolved : disk.resolveFor .create path = .ok place) :
    disk.resolve path = .ok place := by
  rw [resolve]
  rw [resolveFor] at resolved ⊢
  split_ifs at resolved ⊢
  exact followLinks_look_of_create resolved

/-- Paths lead to folders as before when files are edited. -/
theorem EditsFiles.isFolder_eq
    {disk later : Disk}
    (edits : disk.EditsFiles later)
    (path : Path) :
    later.isFolder path = disk.isFolder path := by
  by_cases refused : disk.RefusesPath path
  · have laterRefused := (edits.refusesPath_iff path).mpr refused
    rw [isFolder, isFolder, node?_of_refusesPath refused, node?_of_refusesPath laterRefused]
  · have laterTaken := mt (edits.refusesPath_iff path).mp refused
    rw [isFolder_of_not_refusesPath refused, isFolder_of_not_refusesPath laterTaken,
      edits.place?_eq]
    congr 1
    rw [decide_eq_decide]
    simp only [Option.bind_eq_some_iff, edits.root.isFolder_iff]

/-- A path that leads to a folder starts from one. -/
theorem shapeAt?_start_of_isFolder
    {disk : Disk}
    {path : Path}
    (isFolder : disk.isFolder path = .ok true) :
    disk.root.shapeAt? (disk.start path) = some .folder := by
  obtain ⟨place, leads, shape⟩ := isFolder_eq_true_iff.mp isFolder
  have resolved := (resolve_of_place? leads).2
  rw [resolve, resolveFor] at resolved
  split_ifs at resolved
  cases parts : path.parts with
  | nil =>
      rw [parts, maxLinks, followLinks, follow] at resolved
      cases resolved
      exact shape
  | cons name rest =>
      rw [parts, maxLinks, followLinks, follow_cons] at resolved
      split at resolved
      next startsFromFolder =>
        exact startsFromFolder
      next =>
        cases resolved
      next =>
        cases resolved

/-- A path within a folder that is there starts from a folder, too. -/
theorem shapeAt?_start_join
    {disk : Disk}
    {folder : Path}
    (isFolder : disk.isFolder folder = .ok true)
    (inner : Path) :
    disk.root.shapeAt? (disk.start (folder.join inner)) = some .folder := by
  have startIsFolder := shapeAt?_start_of_isFolder isFolder
  rw [Path.join]
  split_ifs with isInside
  · exact startIsFolder
  · rw [start, if_neg isInside]
    exact Node.shapeAt?_nil_of_folder startIsFolder

/-- A disk on which a file has been written at the place that its path leads to. -/
structure Wrote
    (disk later : Disk)
    (path : Path)
    (content : List UInt8)
    (place : List Text) :
    Prop where
  startIsFolder : disk.root.shapeAt? (disk.start path) = some .folder
  resolved : ∃ node, disk.resolveFor .create path = .ok ⟨place, node⟩
  leads : disk.place? path = some place
  root : later = { disk with root := disk.root.put place (.file (.bytes content)) }
  parent : disk.root.shapeAt? place.dropLast = some .folder
  edits : Node.EditsFile place disk.root later.root
  holds : later.root.fileAt? place = some content

/-- The disk on which a file has been written has it at its place. -/
theorem exists_wrote_of_write
    {disk later : Disk}
    {path : Path}
    {content : List UInt8}
    (startIsFolder : disk.root.shapeAt? (disk.start path) = some .folder)
    (written : disk.write path content = .ok later) :
    ∃ place, disk.Wrote later path content place := by
  obtain ⟨⟨place, node⟩, resolved, _, edits⟩ := editsFile_of_write startIsFolder written
  have look := resolve_of_resolveFor_create resolved
  rw [write] at written
  split_ifs at written with nul
  rw [resolved] at written
  have isPut : later = { disk with root := disk.root.put place (.file (.bytes content)) } := by
    split at written
    next =>
      cases written
    next =>
      cases written
    next same =>
      cases same
      cases written
      rfl
    next same =>
      cases same
  have parent : disk.root.shapeAt? place.dropLast = some .folder := by
    rcases reachable_of_resolveFor startIsFolder resolved with isFolder | ⟨_, parent⟩
    · exact Node.shapeAt?_dropLast isFolder
    · exact parent
  refine ⟨place, startIsFolder, ⟨node, resolved⟩, ?_, isPut, parent, edits, ?_⟩
  · simp [place?, nul, look]
  · rw [Node.fileAt?_eq_some_iff, isPut]
    exact Node.find?_put parent _

namespace Wrote

variable
  {disk later : Disk}
  {path : Path}
  {content : List UInt8}
  {place : List Text}

/-- To write a file is to edit files. -/
theorem editsFiles
    (wrote : disk.Wrote later path content place) :
    disk.EditsFiles later where
  here := by rw [wrote.root]
  root := wrote.edits.editsFiles

/-- A file that has been written is found under its path. -/
theorem content?_eq
    (wrote : disk.Wrote later path content place) :
    later.content? path = some content := by
  rw [content?, wrote.editsFiles.place?_eq, wrote.leads]
  exact wrote.holds

/-- The bytes at every place but that of the file are as they were. -/
theorem fileAt?_elsewhere
    (wrote : disk.Wrote later path content place)
    {other : List Text}
    (elsewhere : other ≠ place) :
    later.root.fileAt? other = disk.root.fileAt? other := by
  rw [Node.fileAt?, Node.fileAt?, Node.bodyAt?, Node.bodyAt?,
    wrote.edits.elsewhere other elsewhere]

/-- Where a file has been written and can be read yet, one can be written after further edits. -/
theorem write_eq
    (wrote : disk.Wrote later path content place)
    {last : Disk}
    (edits : disk.EditsFiles last)
    {held : List UInt8}
    (holds : last.root.fileAt? place = some held)
    (other : List UInt8) :
    last.write path other =
      .ok { last with root := last.root.put place (.file (.bytes other)) } := by
  obtain ⟨node, resolved⟩ := wrote.resolved
  have sameWay := edits.resolveFor_sameWay .create path
  rw [resolved] at sameWay
  have nul := (resolve_of_place? wrote.leads).1
  cases again : last.resolveFor .create path with
  | error error =>
      rw [again] at sameWay
      cases sameWay
  | ok found =>
      obtain ⟨names, lastNode⟩ := found
      rw [again] at sameWay
      cases sameWay
      have isNode : lastNode = some (.file (.bytes held)) :=
        (node_of_resolveFor again).trans (Node.fileAt?_eq_some_iff.mp holds)
      rw [write, nul, again, isNode]
      rfl

/-- To write a file again, after further edits of files, is to edit files. -/
theorem editsFiles_put
    (wrote : disk.Wrote later path content place)
    {last : Disk}
    (edits : disk.EditsFiles last)
    (other : List UInt8) :
    last.EditsFiles { last with root := last.root.put place (.file (.bytes other)) } where
  here := rfl
  root := by
    have parent := edits.root.isFolder_iff.mpr wrote.parent
    have before := edits.root.fileOrNothing wrote.edits.before
    exact (Node.EditsFile.put (.bytes other) parent before).editsFiles

/-- A file that is written again, after further edits of files, is found at its place. -/
theorem fileAt?_put
    (wrote : disk.Wrote later path content place)
    {last : Disk}
    (edits : disk.EditsFiles last)
    (other : List UInt8) :
    (last.root.put place (.file (.bytes other))).fileAt? place = some other := by
  rw [Node.fileAt?_eq_some_iff]
  exact Node.find?_put (edits.root.isFolder_iff.mpr wrote.parent) _

/-- To write what a file holds already changes nothing. -/
theorem write_same
    (wrote : disk.Wrote later path content place)
    {last : Disk}
    (edits : disk.EditsFiles last)
    {held : List UInt8}
    (holds : last.root.fileAt? place = some held) :
    last.write path held = .ok last := by
  rw [wrote.write_eq edits holds, Node.put_self (Node.fileAt?_eq_some_iff.mp holds)]

end Wrote

/-- A disk that has files at some places now, whatever they were, and is the same elsewhere. -/
structure WritesAt
    (written : List Text → Prop)
    (disk later : Disk) :
    Prop where
  here : later.here = disk.here
  elsewhere : ∀ names, ¬ written names → later.root.shapeAt? names = disk.root.shapeAt? names
  before : ∀ names, written names → disk.root.FileOrNothing names
  after :
    ∀ names, written names →
      ∃ content, later.root.shapeAt? names = some (.file (.bytes content))

namespace WritesAt

variable
  {written : List Text → Prop}
  {disk later : Disk}

/-- To write files at some places is to edit files. -/
theorem editsFiles
    (writes : WritesAt written disk later) :
    disk.EditsFiles later where
  here := writes.here
  root := by
    intro names
    by_cases isWritten : written names
    · obtain ⟨content, isFile⟩ := writes.after names isWritten
      exact .inr ⟨writes.before names isWritten, .inr ⟨_, isFile⟩⟩
    · exact .inl (writes.elsewhere names isWritten)

/-- Files that are written after others are written at the places of both. -/
theorem trans
    {others : List Text → Prop}
    {last : Disk}
    (writes : WritesAt written disk later)
    (writesOthers : WritesAt others later last) :
    WritesAt (fun names => written names ∨ others names) disk last where
  here := writesOthers.here.trans writes.here
  elsewhere names apart := by
    rw [not_or] at apart
    rw [writesOthers.elsewhere names apart.2, writes.elsewhere names apart.1]
  before names isWritten := by
    by_cases isFirst : written names
    · exact writes.before names isFirst
    · have before := writesOthers.before names (isWritten.resolve_left isFirst)
      rwa [Node.FileOrNothing, writes.elsewhere names isFirst] at before
  after names isWritten := by
    by_cases isSecond : others names
    · exact writesOthers.after names isSecond
    · rw [writesOthers.elsewhere names isSecond]
      exact writes.after names (isWritten.resolve_right isSecond)

end WritesAt

/-- To write a file is to write at its place. -/
theorem Wrote.writesAt
    {disk later : Disk}
    {path : Path}
    {content : List UInt8}
    {place : List Text}
    (wrote : disk.Wrote later path content place) :
    WritesAt (· = place) disk later where
  here := wrote.editsFiles.here
  elsewhere := wrote.edits.elsewhere
  before names atPlace := by
    rw [atPlace]
    exact wrote.edits.before
  after names atPlace := by
    refine ⟨content, ?_⟩
    rw [atPlace, Node.shapeAt?, Node.fileAt?_eq_some_iff.mp wrote.holds]
    rfl

end Disk

end LineTally
