import LineTally.Proofs.Charset.Utf8
import LineTally.Proofs.Disk.Walk

namespace LineTally

/-!
# How far a walk reaches

A disk takes no path that is too long, so a walk does not enter a folder whose path, as
the walk spells it, is longer than there is room for.  To walk what is nearby is to
walk everything and to keep the files whose folder is in reach.
-/

namespace Node

/-- Whether there is room for the path of some names. -/
def InReach
    (room : Nat)
    (names : List Text) :
    Prop :=
  Utf8.size (['/'].intercalate names) ≤ room

instance (room : Nat) (names : List Text) : Decidable (InReach room names) :=
  inferInstanceAs (Decidable (_ ≤ _))

/-- There is always room for no names. -/
theorem inReach_nil
    (room : Nat) :
    InReach room [] :=
  Nat.zero_le room

/-- After a name and a slash there is less room for the names that follow. -/
theorem inReach_cons_iff
    {room : Nat}
    {name : Text}
    {rest : List Text}
    (named : ∀ next ∈ rest, IsEntryName next) :
    InReach room (name :: rest) ↔
      Utf8.size name ≤ room ∧ InReach (room - Utf8.size name - 1) rest := by
  cases rest with
  | nil =>
      simp [InReach, Utf8.size, Utf8.encode]
  | cons next rest =>
      have slash : Utf8.size ['/'] = 1 := by decide
      have more : 0 < Utf8.size (['/'].intercalate (next :: rest)) := by
        apply Utf8.size_pos
        have notEmpty := (named next (by simp)).1
        cases rest <;> simp [notEmpty]
      simp only [InReach, List.intercalate_cons_cons, Utf8.size_append, slash]
      omega

/-- What is nearby of what is no folder is all of it. -/
theorem nearby_of_not_isFolder
    {node : Node}
    (notFolder : node.isFolder = false)
    (room : Nat) :
    node.nearby room = node := by
  cases node with
  | file body =>
      rfl
  | link target =>
      rfl
  | folder entries =>
      cases notFolder

/-- The nearby parts of entries are those of all but the folders that are too far. -/
theorem nearbyEntries_eq
    (room : Nat)
    (entries : List (Text × Node)) :
    nearbyEntries room entries =
      (entries.filter fun entry => !entry.2.isFolder || Utf8.size entry.1 ≤ room).map
        fun entry => (entry.1, entry.2.nearby (room - Utf8.size entry.1 - 1)) := by
  induction entries with
  | nil =>
      rfl
  | cons entry rest inductionHypothesis =>
      obtain ⟨name, node⟩ := entry
      rw [nearbyEntries, inductionHypothesis, List.filter_cons]
      cases isFolder : node.isFolder with
      | false =>
          simp [nearby_of_not_isFolder isFolder]
      | true =>
          by_cases near : Utf8.size name ≤ room <;> simp [near]

/-- Which entries of a folder are nearby. -/
theorem mem_nearbyEntries
    {room : Nat}
    {entries : List (Text × Node)}
    {name : Text}
    {near : Node} :
    (name, near) ∈ nearbyEntries room entries ↔
      ∃ node, (name, node) ∈ entries ∧ (node.isFolder = false ∨ Utf8.size name ≤ room) ∧
        near = node.nearby (room - Utf8.size name - 1) := by
  rw [nearbyEntries_eq, List.mem_map]
  constructor
  · rintro ⟨⟨first, node⟩, member, same⟩
    cases same
    rw [List.mem_filter] at member
    exact ⟨node, member.1, by simpa using member.2, rfl⟩
  · rintro ⟨node, member, fits, rfl⟩
    refine ⟨(name, node), List.mem_filter.mpr ⟨member, ?_⟩, rfl⟩
    simpa using fits

/-- What is nearby of a well-named tree is well-named. -/
theorem WellNamed.nearby
    {node : Node}
    (wellNamed : node.WellNamed)
    (room : Nat) :
    (node.nearby room).WellNamed := by
  induction wellNamed generalizing room with
  | file body =>
      exact .file body
  | link target =>
      exact .link target
  | @folder entries distinct named below inductionHypothesis =>
      rw [Node.nearby]
      refine .folder ?_ ?_ ?_
      · rw [nearbyEntries_eq, List.map_map]
        exact (List.filter_sublist.map Prod.fst).nodup distinct
      · rintro ⟨name, near⟩ member
        obtain ⟨child, isEntry, _⟩ := mem_nearbyEntries.mp member
        exact named (name, child) isEntry
      · rintro ⟨name, near⟩ member
        obtain ⟨child, isEntry, _, rfl⟩ := mem_nearbyEntries.mp member
        exact inductionHypothesis (name, child) isEntry _

section Walks

variable
  {leadsToFolder : List Text → Bool}
  {excluded folder : List Text}

/-- The same files of a folder itself are listed if only what is nearby is walked. -/
theorem mem_listedNames_nearbyEntries
    {room : Nat}
    {entries : List (Text × Node)}
    {name : Text} :
    name ∈ listedNames leadsToFolder folder (nearbyEntries room entries) ↔
      name ∈ listedNames leadsToFolder folder entries := by
  rw [mem_listedNames, mem_listedNames]
  constructor
  · rintro ⟨near, member, listed⟩
    obtain ⟨node, isEntry, _, rfl⟩ := mem_nearbyEntries.mp member
    cases node with
    | file body =>
        exact ⟨_, isEntry, listed⟩
    | link target =>
        exact ⟨_, isEntry, listed⟩
    | folder entries =>
        cases listed
  · rintro ⟨node, isEntry, listed⟩
    have notFolder : node.isFolder = false := by
      cases node with
      | file body => rfl
      | link target => rfl
      | folder entries => cases listed
    have isNearby := (nearby_of_not_isFolder notFolder (room - Utf8.size name - 1)).symm
    exact ⟨node, mem_nearbyEntries.mpr ⟨node, isEntry, .inl notFolder, isNearby⟩, listed⟩

/-- What a walk goes through has proper names. -/
theorem isEntryName_of_mem_walk
    {node : Node}
    (wellNamed : node.WellNamed)
    {names : List Text}
    (member : names ∈ walk leadsToFolder excluded folder node) :
    ∀ name ∈ names.dropLast, IsEntryName name := by
  obtain ⟨through, found, _⟩ :=
    Option.map_eq_some_iff.mp ((mem_walk_iff wellNamed).mp member).throughFolders
  exact (wellNamed.find? found).2

/-- What is nearby of a folder is a folder, and of what is none it is none. -/
theorem isFolder_nearby
    (node : Node)
    (room : Nat) :
    (node.nearby room).isFolder = node.isFolder := by
  cases node <;> rfl

/-- A walk of what is nearby lists the files whose folder is in reach. -/
theorem mem_walk_nearby
    {node : Node}
    (wellNamed : node.WellNamed)
    {room : Nat}
    {names : List Text} :
    names ∈ walk leadsToFolder excluded folder (node.nearby room) ↔
      names ∈ walk leadsToFolder excluded folder node ∧ InReach room names.dropLast := by
  induction names generalizing node folder room with
  | nil =>
      constructor
      · intro member
        exact (ne_nil_of_mem_walk _ _ _ member rfl).elim
      · rintro ⟨member, _⟩
        exact (ne_nil_of_mem_walk _ _ _ member rfl).elim
  | cons name rest inductionHypothesis =>
      cases node with
      | file body =>
          simp [nearby, walk]
      | link target =>
          simp [nearby, walk]
      | folder entries =>
          rw [nearby]
          cases rest with
          | nil =>
              rw [singleton_mem_walk_iff, singleton_mem_walk_iff, mem_listedNames_nearbyEntries]
              exact (and_iff_left (inReach_nil room)).symm
          | cons next rest =>
              rw [cons_cons_mem_walk_iff, cons_cons_mem_walk_iff, List.dropLast_cons_cons]
              constructor
              · rintro ⟨near, isNear, isFolder, kept, member⟩
                obtain ⟨child, isEntry, fits, rfl⟩ := mem_nearbyEntries.mp isNear
                rw [isFolder_nearby] at isFolder
                have childNamed := wellNamed.entry isEntry
                obtain ⟨below, inReach⟩ := (inductionHypothesis childNamed).mp member
                refine ⟨⟨child, isEntry, isFolder, kept, below⟩, ?_⟩
                rw [inReach_cons_iff (isEntryName_of_mem_walk childNamed below)]
                exact ⟨fits.resolve_left (by simp [isFolder]), inReach⟩
              · rintro ⟨⟨child, isEntry, isFolder, kept, below⟩, inReach⟩
                have childNamed := wellNamed.entry isEntry
                rw [inReach_cons_iff (isEntryName_of_mem_walk childNamed below)] at inReach
                refine
                  ⟨_, mem_nearbyEntries.mpr ⟨child, isEntry, .inr inReach.1, rfl⟩, ?_, kept, ?_⟩
                · rw [isFolder_nearby, isFolder]
                · exact (inductionHypothesis childNamed).mpr ⟨below, inReach.2⟩

end Walks

end Node

end LineTally
