import LineTally.Proofs.Disk.WalkOrder
import LineTally.Proofs.Disk.WellNamed

namespace LineTally

/-!
# What a walk lists

A walk lists a file by the names that lead to it from the folder of the walk: it goes
through folders that are not excluded and ends at an entry that is neither a folder nor
a link to one.  It lists nothing else, and each of these once, in the order of a walk.
No link is followed on the way, so a tree has no way that comes back to itself.
-/

namespace Node

section Walks

variable
  (leadsToFolder : List Text → Bool)
  (excluded folder : List Text)

/-- The walks of sub-folders are those of the entries that are folders and not excluded. -/
theorem walkFolders_eq
    (entries : List (Text × Node)) :
    walkFolders leadsToFolder excluded folder entries =
      (entries.filter fun entry => entry.2.isFolder && !excluded.contains entry.1).map
        fun entry =>
          (entry.1, walk leadsToFolder excluded (folder ++ [entry.1]) entry.2) := by
  induction entries with
  | nil =>
      rfl
  | cons entry rest inductionHypothesis =>
      obtain ⟨name, node⟩ := entry
      rw [walkFolders, inductionHypothesis, List.filter_cons]
      split_ifs <;> rfl

/-- Which walks of sub-folders there are. -/
theorem mem_walkFolders
    {entries : List (Text × Node)}
    {name : Text}
    {walked : List (List Text)} :
    (name, walked) ∈ walkFolders leadsToFolder excluded folder entries ↔
      ∃ child, (name, child) ∈ entries ∧ child.isFolder = true ∧ name ∉ excluded ∧
        walked = walk leadsToFolder excluded (folder ++ [name]) child := by
  rw [walkFolders_eq, List.mem_map]
  constructor
  · rintro ⟨⟨first, child⟩, member, same⟩
    cases same
    simp only [List.mem_filter, Bool.and_eq_true, Bool.not_eq_true', List.contains_eq_mem,
      decide_eq_false_iff_not] at member
    exact ⟨child, member.1, member.2.1, member.2.2, rfl⟩
  · rintro ⟨child, member, isFolder, kept, rfl⟩
    exact ⟨(name, child), by simp [member, isFolder, kept], rfl⟩

/-- Which files of a folder itself are listed. -/
theorem mem_listedNames
    {entries : List (Text × Node)}
    {name : Text} :
    name ∈ listedNames leadsToFolder folder entries ↔
      ∃ node, (name, node) ∈ entries ∧ isListed leadsToFolder folder (name, node) = true := by
  simp only [listedNames, sortByName, List.mem_map, List.mem_mergeSort, List.mem_filter]
  constructor
  · rintro ⟨⟨first, node⟩, member, rfl⟩
    exact ⟨node, member⟩
  · rintro ⟨node, member⟩
    exact ⟨(name, node), member, rfl⟩

/-- What a walk of a folder lists: the files of it, and what the walks below it list. -/
theorem mem_walk_folder
    {entries : List (Text × Node)}
    {names : List Text} :
    names ∈ walk leadsToFolder excluded folder (.folder entries) ↔
      (∃ name ∈ listedNames leadsToFolder folder entries, names = [name]) ∨
        ∃ name child rest, (name, child) ∈ entries ∧ child.isFolder = true ∧
          name ∉ excluded ∧ rest ∈ walk leadsToFolder excluded (folder ++ [name]) child ∧
          names = name :: rest := by
  rw [walk, List.mem_append, List.mem_map, List.mem_flatMap]
  refine or_congr ?_ ?_
  · simp only [eq_comm]
  · simp only [sortByName, List.mem_mergeSort, List.mem_map]
    constructor
    · rintro ⟨⟨name, walked⟩, sub, rest, member, rfl⟩
      obtain ⟨child, isEntry, isFolder, kept, rfl⟩ :=
        (mem_walkFolders leadsToFolder excluded folder).mp sub
      exact ⟨name, child, rest, isEntry, isFolder, kept, member, rfl⟩
    · rintro ⟨name, child, rest, isEntry, isFolder, kept, member, rfl⟩
      exact
        ⟨_, (mem_walkFolders leadsToFolder excluded folder).mpr
          ⟨child, isEntry, isFolder, kept, rfl⟩, rest, member, rfl⟩

/-- No walk lists the node that it starts from. -/
theorem ne_nil_of_mem_walk
    {node : Node}
    {names : List Text}
    (member : names ∈ walk leadsToFolder excluded folder node) :
    names ≠ [] := by
  cases node with
  | file body =>
      cases member
  | link target =>
      cases member
  | folder entries =>
      rcases (mem_walk_folder leadsToFolder excluded folder).mp member with
        ⟨name, _, rfl⟩ | ⟨name, child, rest, _, _, _, _, rfl⟩
      · exact List.cons_ne_nil _ _
      · exact List.cons_ne_nil _ _

/-- A walk of a folder lists a file of the folder itself under its name. -/
theorem singleton_mem_walk_iff
    {entries : List (Text × Node)}
    {name : Text} :
    [name] ∈ walk leadsToFolder excluded folder (.folder entries) ↔
      name ∈ listedNames leadsToFolder folder entries := by
  rw [mem_walk_folder]
  constructor
  · rintro (⟨_, member, same⟩ | ⟨_, _, _, _, _, _, member, same⟩)
    · cases same
      exact member
    · cases same
      exact (ne_nil_of_mem_walk _ _ _ member rfl).elim
  · intro member
    exact .inl ⟨name, member, rfl⟩

/-- A walk of a folder lists a file further down as the walk of a sub-folder does. -/
theorem cons_cons_mem_walk_iff
    {entries : List (Text × Node)}
    {name next : Text}
    {rest : List Text} :
    name :: next :: rest ∈ walk leadsToFolder excluded folder (.folder entries) ↔
      ∃ child, (name, child) ∈ entries ∧ child.isFolder = true ∧ name ∉ excluded ∧
        next :: rest ∈ walk leadsToFolder excluded (folder ++ [name]) child := by
  rw [mem_walk_folder]
  constructor
  · rintro (⟨_, _, same⟩ | ⟨_, child, _, isEntry, isFolder, kept, member, same⟩)
    · cases same
    · cases same
      exact ⟨child, isEntry, isFolder, kept, member⟩
  · rintro ⟨child, isEntry, isFolder, kept, member⟩
    exact .inr ⟨name, child, _, isEntry, isFolder, kept, member, rfl⟩

/-- A walk that lists a file starts from a folder. -/
theorem exists_folder_of_mem_walk
    {node : Node}
    {names : List Text}
    (member : names ∈ walk leadsToFolder excluded folder node) :
    ∃ entries, node = .folder entries := by
  cases node with
  | file body =>
      cases member
  | link target =>
      cases member
  | folder entries =>
      exact ⟨entries, rfl⟩

/--
A file below a node that a walk lists: the way to it goes through folders that are not
excluded, and it is a file or a link, but not one that leads to a folder.
-/
structure IsWalked
    (node : Node)
    (names : List Text) :
    Prop where
  below : names ≠ []
  throughFolders : node.shapeAt? names.dropLast = some .folder
  noneExcluded : ∀ name ∈ names.dropLast, name ∉ excluded
  ends :
    (∃ body, node.shapeAt? names = some (.file body)) ∨
      ∃ target, node.shapeAt? names = some (.link target) ∧
        leadsToFolder (folder ++ names) = false

variable {leadsToFolder excluded folder}

/-- Which files of a folder itself a walk lists. -/
theorem isWalked_singleton_iff
    {entries : List (Text × Node)}
    (wellNamed : (Node.folder entries).WellNamed)
    {name : Text} :
    IsWalked leadsToFolder excluded folder (.folder entries) [name] ↔
      name ∈ listedNames leadsToFolder folder entries := by
  rw [mem_listedNames]
  constructor
  · rintro ⟨_, _, _, ⟨body, isFile⟩ | ⟨target, isLink, notToFolder⟩⟩
    · obtain ⟨child, member, shape⟩ := wellNamed.shapeAt?_cons_iff.mp isFile
      cases child <;> cases shape
      exact ⟨_, member, rfl⟩
    · obtain ⟨child, member, shape⟩ := wellNamed.shapeAt?_cons_iff.mp isLink
      cases child <;> cases shape
      exact ⟨_, member, by simp [isListed, notToFolder]⟩
  · rintro ⟨child, member, listed⟩
    refine ⟨List.cons_ne_nil _ _, rfl, by simp, ?_⟩
    cases child with
    | file body =>
        exact .inl ⟨body, wellNamed.shapeAt?_cons_iff.mpr ⟨_, member, rfl⟩⟩
    | link target =>
        refine .inr ⟨target, wellNamed.shapeAt?_cons_iff.mpr ⟨_, member, rfl⟩, ?_⟩
        simpa [isListed] using listed
    | folder entries =>
        cases listed

/-- Which files below a sub-folder a walk lists. -/
theorem isWalked_cons_iff
    {entries : List (Text × Node)}
    (wellNamed : (Node.folder entries).WellNamed)
    {name next : Text}
    {rest : List Text} :
    IsWalked leadsToFolder excluded folder (.folder entries) (name :: next :: rest) ↔
      ∃ child, (name, child) ∈ entries ∧ name ∉ excluded ∧
        IsWalked leadsToFolder excluded (folder ++ [name]) child (next :: rest) := by
  have sameNames : folder ++ [name] ++ next :: rest = folder ++ name :: next :: rest := by
    simp
  constructor
  · rintro ⟨_, throughFolders, noneExcluded, ends⟩
    rw [List.dropLast_cons_cons] at throughFolders noneExcluded
    obtain ⟨child, member, through⟩ := wellNamed.shapeAt?_cons_iff.mp throughFolders
    obtain ⟨kept, restKept⟩ := List.forall_mem_cons.mp noneExcluded
    -- Under different names there is only this child for the whole way.
    have onlyChild (shape : Shape)
        (found : (Node.folder entries).shapeAt? (name :: next :: rest) = some shape) :
        child.shapeAt? (next :: rest) = some shape := by
      rw [shapeAt?_folder_cons,
        (Text.lookup_eq_some_iff_mem wellNamed.distinct).mpr member] at found
      exact found
    refine ⟨child, member, kept, List.cons_ne_nil _ _, through, restKept, ?_⟩
    rw [sameNames]
    exact ends.imp
      (fun ⟨body, found⟩ => ⟨body, onlyChild _ found⟩)
      (fun ⟨target, found, notToFolder⟩ => ⟨target, onlyChild _ found, notToFolder⟩)
  · rintro ⟨child, member, kept, _, throughFolders, noneExcluded, ends⟩
    refine ⟨List.cons_ne_nil _ _, ?_, ?_, ?_⟩
    · rw [List.dropLast_cons_cons]
      exact wellNamed.shapeAt?_cons_iff.mpr ⟨child, member, throughFolders⟩
    · rw [List.dropLast_cons_cons]
      exact List.forall_mem_cons.mpr ⟨kept, noneExcluded⟩
    · rw [sameNames] at ends
      exact ends.imp
        (fun ⟨body, found⟩ =>
          ⟨body, wellNamed.shapeAt?_cons_iff.mpr ⟨child, member, found⟩⟩)
        (fun ⟨target, found, notToFolder⟩ =>
          ⟨target, wellNamed.shapeAt?_cons_iff.mpr ⟨child, member, found⟩, notToFolder⟩)

/-- What is walked is below a folder. -/
theorem IsWalked.exists_folder
    {node : Node}
    {names : List Text}
    (walked : IsWalked leadsToFolder excluded folder node names) :
    ∃ entries, node = .folder entries := by
  have isFolder := shapeAt?_nil_of_folder walked.throughFolders
  cases node with
  | file body =>
      cases isFolder
  | link target =>
      cases isFolder
  | folder entries =>
      exact ⟨entries, rfl⟩

/-- A walk lists exactly the files that it should. -/
theorem mem_walk_iff
    {node : Node}
    (wellNamed : node.WellNamed)
    {names : List Text} :
    names ∈ walk leadsToFolder excluded folder node ↔
      IsWalked leadsToFolder excluded folder node names := by
  induction names generalizing node folder with
  | nil =>
      constructor
      · intro member
        exact (ne_nil_of_mem_walk _ _ _ member rfl).elim
      · intro walked
        exact (walked.below rfl).elim
  | cons name rest inductionHypothesis =>
      by_cases isFolder : ∃ entries, node = .folder entries
      case neg =>
        constructor
        · intro member
          exact (isFolder (exists_folder_of_mem_walk _ _ _ member)).elim
        · intro walked
          exact (isFolder walked.exists_folder).elim
      obtain ⟨entries, rfl⟩ := isFolder
      cases rest with
      | nil =>
          rw [singleton_mem_walk_iff, isWalked_singleton_iff wellNamed]
      | cons next rest =>
          rw [cons_cons_mem_walk_iff, isWalked_cons_iff wellNamed]
          constructor
          · rintro ⟨child, isEntry, _, kept, member⟩
            exact
              ⟨child, isEntry, kept, (inductionHypothesis (wellNamed.entry isEntry)).mp member⟩
          · rintro ⟨child, isEntry, kept, walked⟩
            have member := (inductionHypothesis (wellNamed.entry isEntry)).mpr walked
            obtain ⟨_, rfl⟩ := walked.exists_folder
            exact ⟨_, isEntry, rfl, kept, member⟩

/-- A file that is listed below a sub-folder has at least two names. -/
theorem exists_names_of_mem_walkFolders
    {entries : List (Text × Node)}
    {name : Text}
    {walked : List (List Text)}
    (sub : (name, walked) ∈ walkFolders leadsToFolder excluded folder entries)
    {names : List Text}
    (member : names ∈ walked.map (name :: ·)) :
    ∃ next rest, names = name :: next :: rest := by
  obtain ⟨child, _, _, _, rfl⟩ := (mem_walkFolders _ _ _).mp sub
  obtain ⟨below, belowMember, rfl⟩ := List.mem_map.mp member
  obtain ⟨next, rest, rfl⟩ :=
    List.exists_cons_of_ne_nil (ne_nil_of_mem_walk _ _ _ belowMember)
  exact ⟨next, rest, rfl⟩

/-- The files of a folder itself come in the order of their names. -/
theorem pairwise_listedNames
    {entries : List (Text × Node)}
    (distinct : (entries.map Prod.fst).Nodup) :
    (listedNames leadsToFolder folder entries).Pairwise (· < ·) := by
  rw [listedNames, List.pairwise_map]
  exact pairwise_sortByName ((List.filter_sublist.map Prod.fst).nodup distinct)

/-- The walks of sub-folders come in the order of the names of these. -/
theorem pairwise_walkFolders
    {entries : List (Text × Node)}
    (distinct : (entries.map Prod.fst).Nodup) :
    (sortByName (walkFolders leadsToFolder excluded folder entries)).Pairwise
      fun first second => first.1 < second.1 := by
  apply pairwise_sortByName
  rw [walkFolders_eq, List.map_map]
  exact (List.filter_sublist.map Prod.fst).nodup distinct

/-- A walk lists its files in the order of a walk. -/
theorem pairwise_walk
    {node : Node}
    (wellNamed : node.WellNamed) :
    (walk leadsToFolder excluded folder node).Pairwise WalksBefore := by
  induction wellNamed generalizing folder with
  | file body =>
      exact .nil
  | link target =>
      exact .nil
  | @folder entries distinct named below inductionHypothesis =>
      have mem_sorted {name : Text} {walked : List (List Text)} :
          (name, walked) ∈ sortByName (walkFolders leadsToFolder excluded folder entries) ↔
            (name, walked) ∈ walkFolders leadsToFolder excluded folder entries :=
        List.mem_mergeSort
      rw [walk, List.pairwise_append, List.pairwise_map, List.pairwise_flatMap]
      refine ⟨?_, ⟨?_, ?_⟩, ?_⟩
      · exact (pairwise_listedNames distinct).imp .files
      · rintro ⟨name, walked⟩ member
        obtain ⟨child, isEntry, _, _, rfl⟩ :=
          (mem_walkFolders _ _ _).mp (mem_sorted.mp member)
        rw [List.pairwise_map]
        exact (inductionHypothesis (name, child) isEntry).imp (.inside name)
      · refine (pairwise_walkFolders distinct).imp_of_mem ?_
        intro first second firstSub secondSub before names member others otherMember
        obtain ⟨next, rest, rfl⟩ :=
          exists_names_of_mem_walkFolders (mem_sorted.mp firstSub) member
        obtain ⟨other, otherRest, rfl⟩ :=
          exists_names_of_mem_walkFolders (mem_sorted.mp secondSub) otherMember
        exact .folders before next other rest otherRest
      · intro names isFile others isBelow
        obtain ⟨file, _, rfl⟩ := List.mem_map.mp isFile
        obtain ⟨sub, subMember, member⟩ := List.mem_flatMap.mp isBelow
        obtain ⟨next, rest, rfl⟩ :=
          exists_names_of_mem_walkFolders (mem_sorted.mp subMember) member
        exact .fileFirst file sub.1 next rest

end Walks

end Node

end LineTally
