import LineTally.CommandLine.Program
import LineTally.Proofs.CommandLine.Uses

namespace LineTally

/-!
# Switches as they are written

A switch that takes a value is written before it or with it in one argument.  However the
switches of a command line are written and wherever they stand, all of them are read with
their values, and so are the paths, if these stand together.  Paths that stand apart from
the first ones are not dropped but complained about.
-/

/-- What is before the first mark of a text, and what is after it. -/
theorem Text.splitFirst_append
    {mark : Char}
    {before : Text}
    (noMark : mark ∉ before)
    (after : Text) :
    splitFirst mark (before ++ mark :: after) = (before, some after) := by
  induction before with
  | nil =>
      simp [splitFirst]
  | cons c rest inductionHypothesis =>
      rw [List.mem_cons, not_or] at noMark
      rw [List.cons_append, splitFirst, if_neg (Ne.symm noMark.1), inductionHypothesis noMark.2]

namespace CommandLine

/-! ## Spellings -/

namespace Switch

variable
  {switch : Switch}
  {spelling : Text}

/-- A switch is found by each of its spellings. -/
theorem find?_spelling
    (isSpelling : spelling ∈ switch.spellings) :
    Grammar.count.find? spelling = some switch := by
  have allFound : ∀ spelling ∈ switch.spellings, Grammar.count.find? spelling = some switch := by
    cases switch <;> decide
  exact allFound spelling isSpelling

/-- A spelling starts with a dash, is not the divider, and has no equals sign in it. -/
theorem shape_spelling
    (isSpelling : spelling ∈ switch.spellings) :
    spelling.head? = some '-' ∧ spelling ≠ Token.dividerText ∧ '=' ∉ spelling := by
  have allShaped : ∀ spelling ∈ switch.spellings,
      spelling.head? = some '-' ∧ spelling ≠ Token.dividerText ∧ '=' ∉ spelling := by
    cases switch <;> decide
  exact allShaped spelling isSpelling

/-- No switch is found by a text with an equals sign in it. -/
theorem find?_of_mem_equals
    {argument : Text}
    (equals : '=' ∈ argument) :
    Grammar.count.find? argument = none := by
  have noEquals : ∀ entry ∈ Grammar.count.spelled, '=' ∉ entry.1 := by
    decide
  rw [Grammar.find?, List.lookup_eq_none_iff]
  rintro entry member
  rw [bne_iff_ne]
  rintro rfl
  exact noEquals entry member equals

end Switch

/-! ## Tokens of written switches -/

namespace Token

/-- An argument without a dash in front is plain. -/
theorem ofArgument_plain
    (grammar : Grammar)
    {argument : Text}
    (noDash : argument.head? ≠ some '-') :
    ofArgument grammar argument = .ok (.plain argument) := by
  rw [ofArgument, if_pos noDash]

/-- A spelling is a switch. -/
theorem ofArgument_spelling
    {switch : Switch}
    {spelling : Text}
    (isSpelling : spelling ∈ switch.spellings) :
    ofArgument Grammar.count spelling = .ok (.known switch spelling none) := by
  obtain ⟨dash, -, -⟩ := Switch.shape_spelling isSpelling
  rw [ofArgument, if_neg (not_not.mpr dash), Switch.find?_spelling isSpelling]

/-- A spelling, an equals sign and a value are a switch with this value, whatever it is. -/
theorem ofArgument_attached
    {switch : Switch}
    {spelling : Text}
    (isSpelling : spelling ∈ switch.spellings)
    (value : Text) :
    ofArgument Grammar.count (spelling ++ '=' :: value) =
      .ok (.known switch spelling (some value)) := by
  obtain ⟨dash, -, noEquals⟩ := Switch.shape_spelling isSpelling
  have firstDash : (spelling ++ '=' :: value).head? = some '-' := by
    rw [List.head?_append, dash, Option.some_or]
  have notAlone : (spelling ++ '=' :: value).length ≠ 1 := by
    cases spelling with
    | nil => cases dash
    | cons c rest => simp
  have notFound : Grammar.count.find? (spelling ++ '=' :: value) = none :=
    Switch.find?_of_mem_equals (by simp)
  rw [ofArgument, if_neg (not_not.mpr firstDash), notFound]
  simp only [notAlone, if_false, Text.splitFirst_append noEquals,
    Switch.find?_spelling isSpelling]

/-- The token of an argument stands before those of the arguments after it. -/
theorem ofArguments_cons
    {grammar : Grammar}
    {argument : Text}
    {token : Token}
    (notDivider : argument ≠ dividerText)
    (isToken : ofArgument grammar argument = .ok token)
    (rest : List Text) :
    ofArguments grammar (argument :: rest) =
      (ofArguments grammar rest).map fun tokens => token :: tokens := by
  rw [ofArguments, if_neg notDivider, isToken]
  rfl

/-- The token of a spelling is a switch, and stands before those of the arguments after it. -/
theorem ofArguments_spelling
    {switch : Switch}
    {spelling : Text}
    (isSpelling : spelling ∈ switch.spellings)
    (rest : List Text) :
    ofArguments Grammar.count (spelling :: rest) =
      (ofArguments Grammar.count rest).map fun tokens =>
        .known switch spelling none :: tokens := by
  obtain ⟨-, notDivider, -⟩ := Switch.shape_spelling isSpelling
  exact ofArguments_cons notDivider (ofArgument_spelling isSpelling) rest

/-- Arguments without a dash in front are all plain. -/
theorem ofArguments_plain
    (grammar : Grammar)
    (arguments rest : List Text)
    (noDash : ∀ argument ∈ arguments, argument.head? ≠ some '-') :
    ofArguments grammar (arguments ++ rest) =
      (ofArguments grammar rest).map fun tokens => arguments.map .plain ++ tokens := by
  induction arguments with
  | nil =>
      rw [List.nil_append]
      cases ofArguments grammar rest <;> rfl
  | cons argument others inductionHypothesis =>
      obtain ⟨firstPlain, othersPlain⟩ := List.forall_mem_cons.mp noDash
      have notDivider : argument ≠ dividerText := by
        rintro rfl
        exact firstPlain rfl
      rw [List.cons_append, ofArguments_cons notDivider (ofArgument_plain grammar firstPlain),
        inductionHypothesis othersPlain]
      cases ofArguments grammar rest <;> rfl

end Token

/-- A switch as it is used on a command line, with the way in which it is written there. -/
inductive WrittenUse where
  /-- A switch that takes no value. -/
  | alone
      (switch : Switch)
      (spelling : Text)
      (isSpelling : spelling ∈ switch.spellings)
      (noValue : switch.takesValue = false)
      (noHelp : switch ≠ .help)
  /-- A switch before the argument that is its value. -/
  | apart
      (switch : Switch)
      (spelling value : Text)
      (isSpelling : spelling ∈ switch.spellings)
      (takesValue : switch.takesValue = true)
      (noDash : value.head? ≠ some '-')
  /-- A switch, an equals sign and any value in one argument. -/
  | attached
      (switch : Switch)
      (spelling value : Text)
      (isSpelling : spelling ∈ switch.spellings)
      (takesValue : switch.takesValue = true)

namespace WrittenUse

/-- The arguments in which a switch is written. -/
def written :
    WrittenUse → List Text
  | .alone _ spelling _ _ _ => [spelling]
  | .apart _ spelling value _ _ _ => [spelling, value]
  | .attached _ spelling value _ _ => [spelling ++ '=' :: value]

/-- The switch that is used, with the value that is written for it. -/
def use :
    WrittenUse → Use
  | .alone switch _ _ _ _ => ⟨switch, none⟩
  | .apart switch _ value _ _ _ => ⟨switch, some value⟩
  | .attached switch _ value _ _ => ⟨switch, some value⟩

/-- The tokens of the arguments in which a switch is written. -/
def tokens :
    WrittenUse → List Token
  | .alone switch spelling _ _ _ => [.known switch spelling none]
  | .apart switch spelling value _ _ _ => [.known switch spelling none, .plain value]
  | .attached switch spelling value _ _ => [.known switch spelling (some value)]

/-- The arguments in which some switches are written. -/
def line
    (uses : List WrittenUse) :
    List Text :=
  uses.flatMap written

/-- What a switch is written in becomes its tokens, whatever follows. -/
theorem ofArguments_written
    (writtenUse : WrittenUse)
    (rest : List Text) :
    Token.ofArguments Grammar.count (writtenUse.written ++ rest) =
      (Token.ofArguments Grammar.count rest).map fun tokens => writtenUse.tokens ++ tokens := by
  cases writtenUse with
  | alone switch spelling isSpelling noValue noHelp =>
      exact Token.ofArguments_spelling isSpelling rest
  | apart switch spelling value isSpelling takesValue noDash =>
      have isPlain := Token.ofArguments_plain Grammar.count [value] rest (by simpa using noDash)
      refine (Token.ofArguments_spelling isSpelling ([value] ++ rest)).trans ?_
      rw [isPlain]
      cases Token.ofArguments Grammar.count rest <;> rfl
  | attached switch spelling value isSpelling takesValue =>
      have notDivider : spelling ++ '=' :: value ≠ Token.dividerText := by
        intro isDivider
        have equals : '=' ∈ Token.dividerText := by
          rw [← isDivider]
          simp
        exact absurd equals (by decide)
      exact Token.ofArguments_cons notDivider (Token.ofArgument_attached isSpelling value) rest

/-- What some switches are written in becomes their tokens, whatever follows. -/
theorem ofArguments_line
    (uses : List WrittenUse)
    (rest : List Text) :
    Token.ofArguments Grammar.count (line uses ++ rest) =
      (Token.ofArguments Grammar.count rest).map fun others => uses.flatMap tokens ++ others := by
  induction uses with
  | nil =>
      rw [line, List.flatMap_nil, List.nil_append]
      cases Token.ofArguments Grammar.count rest <;> rfl
  | cons first others inductionHypothesis =>
      have split : line (first :: others) ++ rest = first.written ++ (line others ++ rest) := by
        simp [line]
      rw [split, ofArguments_written, inductionHypothesis]
      cases Token.ofArguments Grammar.count rest <;> simp [Except.map]

end WrittenUse

/-! ## Taking the tokens of written switches -/

/-- A switch without a value is taken, and the run of plain arguments ends. -/
theorem takeTokens_alone
    {grammar : Grammar}
    {switch : Switch}
    {parsed : Parsed}
    {inRun : Bool}
    (noValue : switch.takesValue = false)
    (noHelp : switch ≠ .help)
    (spelling : Text)
    (rest : List Token) :
    takeTokens grammar parsed inRun (.known switch spelling none :: rest) =
      takeTokens grammar { parsed with uses := parsed.uses ++ [⟨switch, none⟩] } false rest := by
  simp [takeTokens, Cluster.ofSwitch, noValue, noHelp, Parsed.withCluster]

namespace WrittenUse

variable
  {parsed : Parsed}
  {inRun : Bool}

/-- From the tokens of a switch its use is taken, and the run of plain arguments ends. -/
theorem takeTokens_tokens
    (writtenUse : WrittenUse)
    (rest : List Token) :
    takeTokens Grammar.count parsed inRun (writtenUse.tokens ++ rest) =
      takeTokens Grammar.count { parsed with uses := parsed.uses ++ [writtenUse.use] } false
        rest := by
  cases writtenUse with
  | alone switch spelling isSpelling noValue noHelp =>
      exact takeTokens_alone noValue noHelp spelling rest
  | apart switch spelling value isSpelling takesValue noDash =>
      simp [tokens, use, takeTokens, Cluster.ofSwitch, takesValue, Parsed.withCluster]
  | attached switch spelling value isSpelling takesValue =>
      have noHelp : switch ≠ .help := by
        rintro rfl
        cases takesValue
      simp [tokens, use, takeTokens, Cluster.ofSwitch, takesValue, noHelp, Parsed.withCluster]

/-- From the tokens of some switches their uses are taken in order. -/
theorem takeTokens_line
    (uses : List WrittenUse)
    (rest : List Token) :
    takeTokens Grammar.count parsed inRun (uses.flatMap tokens ++ rest) =
      takeTokens Grammar.count { parsed with uses := parsed.uses ++ uses.map use }
        (inRun && uses.isEmpty) rest := by
  induction uses generalizing parsed inRun with
  | nil =>
      simp
  | cons first others inductionHypothesis =>
      rw [List.flatMap_cons, List.append_assoc, takeTokens_tokens, inductionHypothesis]
      simp

end WrittenUse

/-! ## Taking plain arguments -/

section Plain

variable
  {grammar : Grammar}
  {parsed : Parsed}
  {operands : List Text}

/-- Plain arguments in the run of the operands are added to these. -/
theorem takeTokens_inRun
    (isOperands : parsed.operands = some operands)
    (arguments : List Text)
    (rest : List Token) :
    takeTokens grammar parsed true (arguments.map .plain ++ rest) =
      takeTokens grammar { parsed with operands := some (operands ++ arguments) } true rest := by
  induction arguments generalizing parsed operands with
  | nil =>
      simp [← isOperands]
  | cons argument others inductionHypothesis =>
      have withFirst : parsed.withPlain true argument =
          { parsed with operands := some (operands ++ [argument]) } := by
        simp [Parsed.withPlain, isOperands]
      rw [List.map_cons, List.cons_append, takeTokens, withFirst, Bool.true_or,
        inductionHypothesis rfl]
      simp

/-- The first plain arguments are the operands. -/
theorem takeTokens_operands
    {inRun : Bool}
    {arguments : List Text}
    (noOperands : parsed.operands = none)
    (someArguments : arguments ≠ [])
    (rest : List Token) :
    takeTokens grammar parsed inRun (arguments.map .plain ++ rest) =
      takeTokens grammar { parsed with operands := some arguments } true rest := by
  obtain ⟨argument, others, rfl⟩ := List.exists_cons_of_ne_nil someArguments
  have withFirst : parsed.withPlain inRun argument =
      { parsed with operands := some [argument] } := by
    rw [Parsed.withPlain, noOperands]
  rw [List.map_cons, List.cons_append, takeTokens, withFirst, noOperands, Option.isNone_none,
    Bool.or_true, takeTokens_inRun rfl]
  rfl

/-- Plain arguments apart from the operands are left over. -/
theorem takeTokens_extras
    (isOperands : parsed.operands = some operands)
    (arguments : List Text)
    (rest : List Token) :
    takeTokens grammar parsed false (arguments.map .plain ++ rest) =
      takeTokens grammar { parsed with extras := parsed.extras ++ arguments } false rest := by
  induction arguments generalizing parsed with
  | nil =>
      simp
  | cons argument others inductionHypothesis =>
      have withFirst : parsed.withPlain false argument =
          { parsed with extras := parsed.extras ++ [argument] } := by
        simp [Parsed.withPlain, isOperands]
      have notFirst : parsed.operands.isNone = false := by
        rw [isOperands, Option.isNone_some]
      rw [List.map_cons, List.cons_append, takeTokens, withFirst, notFirst, Bool.or_false,
        @inductionHypothesis { parsed with extras := parsed.extras ++ [argument] } isOperands]
      simp

end Plain

/-! ## Reading what is written -/

namespace WrittenUse

/-- That a switch is used, in whatever way it is written. -/
def IsUsed
    (uses : List WrittenUse)
    (switch : Switch) :
    Prop :=
  ∃ writtenUse ∈ uses, writtenUse.use.switch = switch

instance (uses : List WrittenUse) (switch : Switch) : Decidable (IsUsed uses switch) :=
  inferInstanceAs (Decidable (∃ writtenUse ∈ uses, _))

/-- The values that are written for a switch, in their order. -/
def values
    (uses : List WrittenUse)
    (switch : Switch) :
    List Text :=
  (uses.filter fun writtenUse => writtenUse.use.switch = switch).filterMap
    fun writtenUse => writtenUse.use.given

/-- All values that are written for a switch, if it is used. -/
def all?
    (uses : List WrittenUse)
    (switch : Switch) :
    Option (List Text) :=
  if IsUsed uses switch then some (values uses switch) else none

variable
  {uses : List WrittenUse}
  {switch : Switch}

/-- A switch occurs if it is used. -/
theorem occurs_map_use :
    occurs switch (uses.map use) = true ↔ IsUsed uses switch := by
  simp [occurs, IsUsed]

/-- What is given for a switch are the values that are written for it. -/
theorem givenFor_map_use :
    givenFor switch (uses.map use) = (values uses switch).map .text := by
  rw [givenFor, values, List.filterMap_map, List.filterMap_filter, List.map_filterMap]
  apply List.filterMap_congr
  intro writtenUse _
  by_cases same : writtenUse.use.switch = switch <;> simp [same]

/-- A written switch has a value with it exactly if it takes one. -/
theorem isComplete_use
    (writtenUse : WrittenUse) :
    writtenUse.use.IsComplete := by
  cases writtenUse with
  | alone switch spelling isSpelling noValue noHelp =>
      simp [use, Use.IsComplete, noValue]
  | apart switch spelling value isSpelling takesValue noDash =>
      simp [use, Use.IsComplete, takesValue]
  | attached switch spelling value isSpelling takesValue =>
      simp [use, Use.IsComplete, takesValue]

/-- A switch that may be repeated has all values that are written for it. -/
theorem repeated?_map_use
    (takes : switch.takesValue = true) :
    repeated? switch (uses.map use) = (all? uses switch).map (List.map .text) := by
  have complete : ∀ other ∈ uses.map use, other.IsComplete := by
    intro other member
    obtain ⟨writtenUse, -, rfl⟩ := List.mem_map.mp member
    exact writtenUse.isComplete_use
  have noneGiven := givenFor_eq_nil_iff complete takes
  rw [← Bool.not_eq_true, occurs_map_use, givenFor_map_use] at noneGiven
  rw [repeated?, givenFor_map_use, all?]
  split_ifs with isUsed
  · split
    next none => exact (noneGiven.mp none isUsed).elim
    next => rfl
  · rw [noneGiven.mpr isUsed]
    rfl

end WrittenUse

open WrittenUse (line)

/--
The arguments that some paths and some written switches stand for: all values of a switch
that may be repeated, the last one of any other, and whether a switch without values is used.
Every value is kept as the text that is written, two dashes alone too.
-/
structure Arguments.AreWritten
    (arguments : Arguments)
    (paths : List Text)
    (uses : List WrittenUse) :
    Prop where
  paths : arguments.paths = paths
  fileTypes : arguments.fileTypes = (WrittenUse.all? uses .ext).map (List.map .text)
  ignoreFiles : arguments.ignoreFiles = (WrittenUse.all? uses .ignore).map (List.map .text)
  excludeDirs : arguments.excludeDirs = (WrittenUse.all? uses .excludeDir).map (List.map .text)
  saveDir : arguments.saveDir = (WrittenUse.values uses .saveDir).getLast?.map .text
  config : arguments.config = (WrittenUse.values uses .config).getLast?.map .text
  json : arguments.json = true ↔ WrittenUse.IsUsed uses .json
  print : arguments.print = true ↔ WrittenUse.IsUsed uses .print
  verbose : arguments.verbose = true ↔ WrittenUse.IsUsed uses .verbose

/-- The uses that are read are those that are written. -/
theorem Arguments.areWritten_ofUses
    (paths : List Text)
    (uses : List WrittenUse) :
    (ofUses (uses.map WrittenUse.use) paths).AreWritten paths uses where
  paths := rfl
  fileTypes := WrittenUse.repeated?_map_use rfl
  ignoreFiles := WrittenUse.repeated?_map_use rfl
  excludeDirs := WrittenUse.repeated?_map_use rfl
  saveDir := (congrArg List.getLast? WrittenUse.givenFor_map_use).trans List.getLast?_map
  config := (congrArg List.getLast? WrittenUse.givenFor_map_use).trans List.getLast?_map
  json := WrittenUse.occurs_map_use
  print := WrittenUse.occurs_map_use
  verbose := WrittenUse.occurs_map_use

section Reading

variable
  {paths later : List Text}

/-- Paths between switches are the operands, and those apart from the first are left over. -/
theorem countArguments_written
    (before between after : List WrittenUse)
    (somePaths : paths ≠ [])
    (noDash : ∀ path ∈ paths, path.head? ≠ some '-')
    (laterNoDash : ∀ path ∈ later, path.head? ≠ some '-')
    (isApart : later ≠ [] → between ≠ []) :
    countArguments (line before ++ (paths ++ (line between ++ (later ++ line after)))) =
      .ok (.ofUses ((before ++ between ++ after).map WrittenUse.use) paths, later) := by
  have tokenized :
      Token.ofArguments Grammar.count
          (line before ++ (paths ++ (line between ++ (later ++ (line after ++ []))))) =
        .ok
          (before.flatMap WrittenUse.tokens ++ (paths.map .plain
            ++ (between.flatMap WrittenUse.tokens ++ (later.map .plain
              ++ (after.flatMap WrittenUse.tokens ++ []))))) := by
    rw [WrittenUse.ofArguments_line, Token.ofArguments_plain _ _ _ noDash,
      WrittenUse.ofArguments_line, Token.ofArguments_plain _ _ _ laterNoDash,
      WrittenUse.ofArguments_line]
    rfl
  have laterTaken (parsed : Parsed) (isOperands : parsed.operands = some paths)
      (rest : List Token) :
      takeTokens Grammar.count parsed between.isEmpty (later.map .plain ++ rest) =
        takeTokens Grammar.count { parsed with extras := parsed.extras ++ later }
          between.isEmpty rest := by
    by_cases none : later = []
    · simp [none]
    · have ended : between.isEmpty = false := by
        simpa using isApart none
      rw [ended, takeTokens_extras isOperands]
  rw [List.append_nil] at tokenized
  simp only [countArguments, parse, tokenized]
  rw [WrittenUse.takeTokens_line, takeTokens_operands rfl somePaths, WrittenUse.takeTokens_line,
    Bool.true_and, laterTaken _ rfl, WrittenUse.takeTokens_line, takeTokens]
  simp

/--
Whatever switches stand before and after some paths, and however they are written, the paths
and all values that are written for the switches are read.  If more paths stand apart from
these, the program ends with a complaint about them and changes nothing.
-/
theorem read_keepsArguments
    (before after : List WrittenUse)
    (paths : List Text)
    (somePaths : paths ≠ [])
    (noDash : ∀ path ∈ paths, path.head? ≠ some '-') :
    (∃ arguments,
      read (countName :: (line before ++ paths ++ line after)) = .ok arguments ∧
        arguments.AreWritten paths (before ++ after)) ∧
      ∀ (release : Release) (between : List WrittenUse) (later : List Text) (disk : Disk),
        between ≠ [] →
        later ≠ [] →
        (∀ path ∈ later, path.head? ≠ some '-') →
          release.program disk
              (countName :: (line before ++ paths ++ line between ++ later ++ line after)) =
            ⟨disk, [],
              outerUsage ++ "linecount".toList ++ ": error: ".toList
                ++ (UsageFault.unrecognized later).message ++ ['\n'],
              .exit 2⟩ := by
  constructor
  · have counted := countArguments_written before after [] somePaths noDash
      (List.forall_mem_nil _) (fun notNil => (notNil rfl).elim)
    refine ⟨_, ?_, Arguments.areWritten_ofUses paths (before ++ after)⟩
    rw [read_countName]
    simp only [List.append_assoc, List.append_nil, WrittenUse.line, List.flatMap_nil]
      at counted ⊢
    rw [counted]
  · intro release between later disk someBetween someLater laterNoDash
    have counted := countArguments_written before between after somePaths noDash laterNoDash
      fun _ => someBetween
    obtain ⟨path, others, rfl⟩ := List.exists_cons_of_ne_nil someLater
    have isRead := read_countName
      (line before ++ (paths ++ (line between ++ (path :: others ++ line after))))
    rw [counted] at isRead
    simp only [List.append_assoc] at isRead ⊢
    rw [Release.program, Release.read, isRead]
    rfl

end Reading

/-- A switch with its value after it. -/
def writtenExt : WrittenUse :=
  .apart .ext "-e".toList ".n".toList (by decide) rfl (by decide)

/-- A switch with a value that has an equals sign in it. -/
def writtenIgnore : WrittenUse :=
  .attached .ignore "--ignore".toList "a=b".toList (by decide) rfl

/-- A switch with two dashes alone as its value. -/
def writtenDashes : WrittenUse :=
  .attached .excludeDir "--exclude-dir".toList "--".toList (by decide) rfl

/-- A switch without a value. -/
def writtenJson : WrittenUse :=
  .alone .json "--json".toList (by decide) rfl (by decide)

/-- Paths, values and switches are kept, and a path after the switches is complained about. -/
theorem read_keepsArguments_mixedLine :
    (∃ arguments,
      read (["count", "-e", ".n", "count", "a.m", "--ignore=a=b", "--exclude-dir=--",
          "--json"].map String.toList) = .ok arguments ∧
        arguments.paths = ["count".toList, "a.m".toList] ∧
        arguments.fileTypes = some [.text ".n".toList] ∧
        arguments.ignoreFiles = some [.text "a=b".toList] ∧
        arguments.excludeDirs = some [.text "--".toList] ∧
        arguments.saveDir = none ∧
        arguments.json = true) ∧
      (program ⟨.folder [], []⟩
        (["count", "-e", ".n", "count", "a.m", "--json", "b.m", "--ignore=a=b",
          "--exclude-dir=--", "--json"].map String.toList)).ending = .exit 2 := by
  obtain ⟨⟨arguments, isRead, areWritten⟩, complained⟩ :=
    read_keepsArguments [writtenExt] [writtenIgnore, writtenDashes, writtenJson]
      ["count".toList, "a.m".toList] (by decide) (by decide)
  constructor
  · refine ⟨arguments, isRead, areWritten.paths, ?_, ?_, ?_, ?_, ?_⟩
    · rw [areWritten.fileTypes]
      decide
    · rw [areWritten.ignoreFiles]
      decide
    · rw [areWritten.excludeDirs]
      decide
    · rw [areWritten.saveDir]
      decide
    · rw [areWritten.json]
      decide
  · have isComplaint := complained startRelease [writtenJson] ["b.m".toList] ⟨.folder [], []⟩
      (by decide) (by decide) (by decide)
    exact congrArg Transcript.ending isComplaint

end CommandLine

end LineTally
