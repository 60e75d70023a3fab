import LineTally.Proofs.Run.Abort
import LineTally.Proofs.Run.Again

namespace LineTally

/-!
# Folders and lists

A run that is given a folder and a run that is given the list of the files found there
are the same run.  A path that is no folder is like a list with nothing else in it, unless
the disk refuses the path: then only the list is taken.  And what was collected once is
collected again as it is.
-/

namespace Selection

section Folders

variable
  {disk : Disk}
  {root reference : FileRef}

/-- What is found below a folder depends on the text and the path that refer to it. -/
theorem find_congr
    (sameText : root.toText = reference.toText)
    (samePath : root.toPath = reference.toPath)
    (extensions excluded : List Text) :
    find disk extensions excluded root = find disk extensions excluded reference := by
  simp only [find, Disk.walkFrom, Disk.walkStart?, sameText, samePath]

/-- Finding files below a folder does not fail. -/
theorem exists_find_eq_ok
    (isFolder : disk.isFolder reference.toPath = .ok true)
    (extensions excluded : List Text) :
    ∃ files, find disk extensions excluded reference = .ok files := by
  obtain ⟨place, leads, _⟩ := Disk.isFolder_eq_true_iff.mp isFolder
  have noNul := (Disk.resolve_of_place? leads).1
  have starts : ∃ start, disk.walkStart? reference = .ok start := by
    rw [Disk.walkStart?, noNul]
    simp only [Bool.false_eq_true, if_false]
    split_ifs
    · exact ⟨_, rfl⟩
    · split <;> exact ⟨_, rfl⟩
  obtain ⟨start, starts⟩ := starts
  rw [find, Disk.walkFrom, starts]
  cases start <;> exact ⟨_, rfl⟩

end Folders

section Gathering

variable
  {disk : Disk}
  {reference : FileRef}

/-- Below a folder its files are gathered. -/
theorem gather_of_isFolder
    (isFolder : disk.isFolder reference.toPath = .ok true)
    (extensions excluded : List Text) :
    gather disk extensions excluded (.single reference) =
      find disk extensions excluded (.ofPath reference.toPath) := by
  rw [gather, isFolder]
  rfl

/-- What is no folder is gathered itself. -/
theorem gather_of_not_isFolder
    (notFolder : disk.isFolder reference.toPath ≠ .ok true)
    (taken : ¬ disk.RefusesPath reference.toPath)
    (extensions excluded : List Text) :
    gather disk extensions excluded (.single reference) = .ok [reference.toText] := by
  have answer := Disk.isFolder_of_not_refusesPath taken
  cases leads : decide ((disk.place? reference.toPath).bind disk.root.shapeAt? = some .folder) with
  | true =>
      rw [leads] at answer
      exact (notFolder answer).elim
  | false =>
      rw [gather, answer, leads]
      rfl

/-- Nothing is gathered if the disk refuses the path. -/
theorem gather_of_refusesPath
    (refused : disk.RefusesPath reference.toPath)
    (extensions excluded : List Text) :
    gather disk extensions excluded (.single reference) =
      .error (.refused .tooLong reference.toPath.toText) := by
  rw [gather, Disk.isFolder, Disk.node?_of_refusesPath refused]
  rfl

end Gathering

/-- What is gathered is collected but for the ignored files, with a note of how many they are. -/
theorem collect_of_gather
    {disk : Disk}
    {extensions excluded : List Text}
    {input : Input}
    {found : List Text}
    (gathered : gather disk extensions excluded input = .ok found)
    (ignored : List Text) :
    collect disk extensions ignored excluded input =
      ⟨[⟨.info, .selection,
          summary (found.filter fun file => !isIgnored ignored (.ofText file)).length
            found.length⟩],
        .ok (found.filter fun file => !isIgnored ignored (.ofText file))⟩ := by
  rw [collect, gathered, Journal.ofDisk_ok, pure_bind, map_toText_dropIgnored]
  rfl

/-- What is collected has been gathered. -/
theorem exists_gather_of_collect
    {disk : Disk}
    {extensions ignored excluded kept : List Text}
    {input : Input}
    (collected : (collect disk extensions ignored excluded input).result = .ok kept) :
    ∃ found, gather disk extensions excluded input = .ok found := by
  cases gathered : gather disk extensions excluded input with
  | ok found =>
      exact ⟨found, rfl⟩
  | error fault =>
      rw [collect_result, gathered] at collected
      cases collected

/-- Which of the texts in a list are dropped is known from those that are kept. -/
theorem length_filter_add_countP
    (keeps : Text → Bool)
    (found : List Text) :
    (found.filter keeps).length + (found.countP fun file => file ∉ found.filter keeps) =
      found.length := by
  have dropped :
      (found.countP fun file => file ∉ found.filter keeps) =
        found.countP fun file => ¬ keeps file := by
    apply List.countP_congr
    intro file member
    simp [member]
  rw [dropped, ← List.countP_eq_length_filter, ← List.length_eq_countP_add_countP]

/-- The one note tells how many are kept and how many of what was gathered are not. -/
theorem notes_collect
    {disk : Disk}
    {extensions ignored excluded found kept : List Text}
    {input : Input}
    (gathered : gather disk extensions excluded input = .ok found)
    (collected : (collect disk extensions ignored excluded input).result = .ok kept) :
    (collect disk extensions ignored excluded input).notes =
        [⟨.info, .selection,
          "Collected ".toList ++ Decimal.ofNat kept.length ++ " files (".toList
            ++ Decimal.ofNat (found.countP fun file => file ∉ kept)
            ++ " ignored)".toList⟩] ∧
      kept.length + (found.countP fun file => file ∉ kept) = found.length := by
  rw [collect_of_gather gathered] at collected ⊢
  obtain rfl := Except.ok.inj collected
  have adds := length_filter_add_countP (fun file => !isIgnored ignored (.ofText file)) found
  refine ⟨?_, adds⟩
  have ignoredCount := Nat.sub_eq_of_eq_add' adds.symm
  rw [← ignoredCount]
  rfl

/-- What was collected is collected again as a list, wherever and from whatever else. -/
theorem collect_listed_again
    {disk : Disk}
    {extensions ignored excluded kept : List Text}
    {input : Input}
    (collected : (collect disk extensions ignored excluded input).result = .ok kept)
    (later : Disk)
    (others leftOut : List Text) :
    (collect later others ignored leftOut (.listed (kept.map .ofText))).result = .ok kept := by
  obtain ⟨found, gathered⟩ := exists_gather_of_collect collected
  have listed : gather later others leftOut (.listed (kept.map .ofText)) = .ok kept := by
    rw [gather, List.map_map]
    exact congrArg Except.ok (List.map_id _)
  rw [collect_of_gather gathered] at collected
  obtain rfl := Except.ok.inj collected
  rw [collect_of_gather listed, List.filter_filter]
  simp only [Bool.and_self]

/-- A path that is no folder is collected as in a list exactly if the disk takes it. -/
theorem collect_single_eq_listed_iff
    {disk : Disk}
    {reference : FileRef}
    (notFolder : disk.isFolder reference.toPath ≠ .ok true)
    (extensions ignored excluded : List Text) :
    collect disk extensions ignored excluded (.single reference) =
        collect disk extensions ignored excluded (.listed [reference]) ↔
      ¬ disk.RefusesPath reference.toPath := by
  have listed : gather disk extensions excluded (.listed [reference]) = .ok [reference.toText] :=
    rfl
  constructor
  · intro same refused
    have results := congrArg Journal.result same
    rw [collect_of_gather listed, collect_result, gather_of_refusesPath refused] at results
    cases results
  · intro taken
    rw [collect_of_gather listed,
      collect_of_gather (gather_of_not_isFolder notFolder taken extensions excluded)]

end Selection

namespace Request

/-- A run over the list of the files that are found below a folder is a run over the folder. -/
theorem run_list_eq
    {request : Request}
    {disk : Disk}
    {reference : FileRef}
    {plan : Plan}
    {files : List Text}
    (refers : request.input.fileRef? = some reference)
    (isFolder : disk.isFolder reference.toPath = .ok true)
    (checked : (request.effectiveSettings.check disk).result = .ok plan)
    (found :
      Selection.find disk plan.extensions plan.excluded (.ofPath reference.toPath) = .ok files) :
    ({ request with input := .list (files.map .string) } : Request).run disk =
      request.run disk := by
  have single : checkInput request.input = .ok (.single reference) := by
    rw [checkInput, Input.ofValue?, refers]
  have eachRefers :
      (files.map Value.string).mapM Value.fileRef? = some (files.map FileRef.ofText) := by
    rw [List.mapM_map]
    exact List.mapM_pure
  have listed :
      checkInput (.list (files.map .string)) = .ok (.listed (files.map .ofText)) := by
    simp only [checkInput, Input.ofValue?, Value.fileRef?, Value.sequence?, eachRefers,
      Option.bind_eq_bind, Option.bind_some]
    rfl
  have gathered :
      Selection.gather disk plan.extensions plan.excluded (.listed (files.map .ofText)) =
        Selection.gather disk plan.extensions plan.excluded (.single reference) := by
    rw [Selection.gather_of_isFolder isFolder, found, Selection.gather, List.map_map]
    exact congrArg Except.ok (List.map_id _)
  have sameSurvey :
      ({ request with input := .list (files.map .string) } : Request).survey disk =
        request.survey disk := by
    rw [survey, survey, single, listed, Journal.ofExcept_ok, Journal.ofExcept_ok, pure_bind,
      pure_bind]
    -- The settings do not depend on the input, so the plans are the same.
    apply Journal.bind_congr_of_ok
    intro other otherChecked
    cases otherChecked.symm.trans checked
    rw [Selection.collect, Selection.collect, gathered]
  rw [run, run, sameSurvey]

end Request

namespace Selection

/--
A run over a folder does exactly what a run over the list of its files does, as they are
found under its path or the text of its path.  A path that is no folder is collected as in
a list of its own, unless the disk refuses it.  And what is collected is told by the one
note that is made, and is collected again when it is listed.
-/
theorem collect_agrees
    (disk : Disk) :
    (∀ (request : Request) (reference root : FileRef) (plan : Plan),
      request.input.fileRef? = some reference →
      disk.isFolder reference.toPath = .ok true →
      (request.effectiveSettings.check disk).result = .ok plan →
      root.toPath = reference.toPath →
      root.toText = reference.toPath.toText →
      ∃ files,
        find disk plan.extensions plan.excluded root = .ok files ∧
          ({ request with input := .list (files.map .string) } : Request).run disk =
            request.run disk) ∧
      (∀ (extensions ignored excluded : List Text) (reference : FileRef),
        disk.isFolder reference.toPath ≠ .ok true →
        (collect disk extensions ignored excluded (.single reference) =
            collect disk extensions ignored excluded (.listed [reference]) ↔
          ¬ disk.RefusesPath reference.toPath)) ∧
      ∀ (extensions ignored excluded : List Text) (input : Input) (kept : List Text),
        (collect disk extensions ignored excluded input).result = .ok kept →
        ∃ found,
          gather disk extensions excluded input = .ok found ∧
            (collect disk extensions ignored excluded input).notes =
              [⟨.info, .selection,
                "Collected ".toList ++ Decimal.ofNat kept.length ++ " files (".toList
                  ++ Decimal.ofNat (found.countP fun file => file ∉ kept)
                  ++ " ignored)".toList⟩] ∧
            kept.length + (found.countP fun file => file ∉ kept) = found.length ∧
            ∀ (later : Disk) (others : List Text) (leftOut : List Text),
              (collect later others ignored leftOut (.listed (kept.map .ofText))).result =
                .ok kept := by
  refine ⟨?_, ?_, ?_⟩
  · intro request reference root plan refers isFolder checked samePath sameText
    have rootIsFolder : disk.isFolder root.toPath = .ok true := samePath ▸ isFolder
    obtain ⟨files, found⟩ := exists_find_eq_ok rootIsFolder plan.extensions plan.excluded
    refine ⟨files, found, ?_⟩
    have sameFound :
        find disk plan.extensions plan.excluded root =
          find disk plan.extensions plan.excluded (.ofPath reference.toPath) :=
      @find_congr disk root (.ofPath reference.toPath) sameText samePath _ _
    rw [sameFound] at found
    exact Request.run_list_eq refers isFolder checked found
  · intro extensions ignored excluded reference notFolder
    exact collect_single_eq_listed_iff notFolder extensions ignored excluded
  · intro extensions ignored excluded input kept collected
    obtain ⟨found, gathered⟩ := exists_gather_of_collect collected
    obtain ⟨notes, adds⟩ := notes_collect gathered collected
    exact ⟨found, gathered, notes, adds, collect_listed_again collected⟩

/-- The disk refuses a name that is too long. -/
theorem refusesPath_longName :
    Counting.plainDisk.RefusesPath (Path.ofText Counting.longName) := by
  have noAnswer :
      Counting.plainDisk.isFolder (Path.ofText Counting.longName) =
        .error (.refused .tooLong Counting.longName) := by
    decide +kernel
  by_contra taken
  cases noAnswer.symm.trans (Disk.isFolder_of_not_refusesPath taken)

/--
The working folder and the one file in it are counted alike; a name that is too long is
collected from a list only; and one of two listed files is left out and noted.
-/
theorem collect_agrees_nestedDisk :
    (∃ files,
      files = ["sub/a.m".toList] ∧
        ({ Request.forWorkingFolder with input := .list (files.map .string) } : Request).run
            Request.nestedDisk =
          Request.forWorkingFolder.run Request.nestedDisk) ∧
      collect Counting.plainDisk [".m".toList] [] [] (.single (.ofText Counting.longName)) ≠
        collect Counting.plainDisk [".m".toList] [] [] (.listed [.ofText Counting.longName]) ∧
      (collect Request.nestedDisk [] ["a.m".toList] []
            (.listed [.ofText "sub/a.m".toList, .ofText "b.m".toList])).notes =
        [⟨.info, .selection, "Collected 1 files (1 ignored)".toList⟩] := by
  refine ⟨?_, ?_, ?_⟩
  · obtain ⟨isFolder, checked, finds⟩ :
        Request.nestedDisk.isFolder (Path.ofText ".".toList) = .ok true ∧
          (Request.forWorkingFolder.effectiveSettings.check Request.nestedDisk).result =
            .ok Request.workingFolderPlan ∧
          find Request.nestedDisk Request.workingFolderPlan.extensions
              Request.workingFolderPlan.excluded (.ofText ".".toList) =
            .ok ["sub/a.m".toList] := by
      decide +kernel
    obtain ⟨files, found, same⟩ :=
      (collect_agrees Request.nestedDisk).1 Request.forWorkingFolder (.ofText ".".toList)
        (.ofText ".".toList) Request.workingFolderPlan rfl isFolder checked rfl (by decide)
    exact ⟨files, Except.ok.inj (found.symm.trans finds), same⟩
  · have notFolder :
        Counting.plainDisk.isFolder (Path.ofText Counting.longName) ≠ .ok true := by
      decide +kernel
    intro same
    exact
      ((collect_agrees Counting.plainDisk).2.1 _ _ _ (.ofText Counting.longName) notFolder).mp
        same refusesPath_longName
  · obtain ⟨found, gathered, notes, _⟩ :=
      (collect_agrees Request.nestedDisk).2.2 [] ["a.m".toList] []
        (.listed [.ofText "sub/a.m".toList, .ofText "b.m".toList]) ["b.m".toList]
        (by decide +kernel)
    rw [gather, Except.ok.injEq] at gathered
    rw [notes, ← gathered]
    decide +kernel

/-- A path that is no folder is not always collected as in a list of its own. -/
theorem collect_single_not_always_listed :
    ¬ ∀ (disk : Disk) (extensions ignored excluded : List Text) (reference : FileRef),
      disk.isFolder reference.toPath ≠ .ok true →
      collect disk extensions ignored excluded (.single reference) =
        collect disk extensions ignored excluded (.listed [reference]) := by
  intro always
  have notFolder :
      Counting.plainDisk.isFolder (FileRef.ofText Counting.longName).toPath ≠ .ok true := by
    decide +kernel
  have same := always Counting.plainDisk [] [] [] (.ofText Counting.longName) notFolder
  exact (collect_single_eq_listed_iff notFolder [] [] []).mp same refusesPath_longName

end Selection

end LineTally
