import LineTally.Proofs.CommandLine.Written

namespace LineTally.CommandLine

/-!
# Switches that only show

To print the report and to tell more of a run are asked for by switches without values.
Taken out of a command line, such a switch leaves everything else as it was read.  It can be
put right after the name of the command, and before any other switch or at the end of a
command line without a divider.
-/

/-! ## Tokens of the parts of a command line -/

namespace Token

variable
  {grammar : Grammar}

/-- An argument by itself is no divider. -/
theorem ofArgument_ne_divider
    {argument : Text} :
    ofArgument grammar argument ≠ .ok .divider := by
  have dashed : ofDashed grammar argument ≠ .ok .divider := by
    rw [ofDashed]
    split
    · simp
    · split_ifs <;> simp
    · simp
  rw [ofArgument]
  split_ifs
  · simp
  · split
    · simp
    · simp
  · split
    · simp
    · split
      · split
        · simp
        · exact dashed
      · exact dashed

/-- Tokens of arguments without a divider are no dividers. -/
theorem divider_notMem
    {arguments : List Text}
    {tokens : List Token}
    (noDivider : dividerText ∉ arguments)
    (tokenized : ofArguments grammar arguments = .ok tokens) :
    .divider ∉ tokens := by
  induction arguments generalizing tokens with
  | nil =>
      cases tokenized
      simp
  | cons argument rest inductionHypothesis =>
      rw [List.mem_cons, not_or] at noDivider
      rw [ofArguments, if_neg (Ne.symm noDivider.1)] at tokenized
      obtain ⟨token, isToken, tokenized⟩ := Except.bind_eq_ok_iff.mp tokenized
      obtain ⟨others, areOthers, made⟩ := Except.bind_eq_ok_iff.mp tokenized
      cases made
      rw [List.mem_cons, not_or]
      refine ⟨?_, inductionHypothesis noDivider.2 areOthers⟩
      rintro rfl
      exact ofArgument_ne_divider isToken

/-- Up to a divider the tokens of a command line are those of its parts. -/
theorem ofArguments_append_eq_ok_iff
    {arguments rest : List Text}
    {tokens : List Token}
    (noDivider : dividerText ∉ arguments) :
    ofArguments grammar (arguments ++ rest) = .ok tokens ↔
      ∃ firsts lasts,
        ofArguments grammar arguments = .ok firsts ∧
          ofArguments grammar rest = .ok lasts ∧
          tokens = firsts ++ lasts := by
  induction arguments generalizing tokens with
  | nil =>
      simp [ofArguments]
  | cons argument others inductionHypothesis =>
      rw [List.mem_cons, not_or] at noDivider
      rw [List.cons_append, ofArguments, ofArguments, if_neg (Ne.symm noDivider.1),
        if_neg (Ne.symm noDivider.1)]
      simp only [Except.bind_eq_ok_iff, inductionHypothesis noDivider.2]
      constructor
      · rintro ⟨token, isToken, _, ⟨firsts, lasts, areFirsts, areLasts, rfl⟩, made⟩
        cases made
        exact ⟨token :: firsts, lasts, ⟨token, isToken, firsts, areFirsts, rfl⟩, areLasts, rfl⟩
      · rintro ⟨_, lasts, ⟨token, isToken, firsts, areFirsts, made⟩, areLasts, rfl⟩
        cases made
        exact ⟨token, isToken, _, ⟨firsts, lasts, areFirsts, areLasts, rfl⟩, rfl⟩

end Token

/-! ## Taking the parts of a command line -/

section Taking

variable
  {grammar : Grammar}
  {parsed taken : Parsed}
  {inRun : Bool}
  {tokens : List Token}

/-- What is left over stays left over. -/
theorem extras_prefix_of_takeTokens
    (isTaken : takeTokens grammar parsed inRun tokens = .ok taken) :
    parsed.extras <+: taken.extras := by
  have withPlain (parsed : Parsed) (inRun : Bool) (argument : Text) :
      parsed.extras <+: (parsed.withPlain inRun argument).extras := by
    rw [Parsed.withPlain]
    split
    · exact List.prefix_refl _
    · split_ifs
      · exact List.prefix_refl _
      · exact List.prefix_append _ _
  fun_induction takeTokens grammar parsed inRun tokens with
  | case1 =>
      cases isTaken
      exact List.prefix_refl _
  | case2 parsed inRun argument rest starts inductionHypothesis =>
      exact (withPlain parsed inRun argument).trans (inductionHypothesis isTaken)
  | case3 parsed inRun rest =>
      cases isTaken
      rw [Parsed.withDivided]
      split <;> split_ifs <;> simp
  | case4 parsed inRun argument rest inductionHypothesis =>
      exact (List.prefix_append _ _).trans (inductionHypothesis isTaken)
  | case5 | case6 | case8 | case9 =>
      cases isTaken
  | case7 parsed inRun switch spelling attached cluster ofSwitch pending value rest isPending
      noHelp inductionHypothesis =>
      exact inductionHypothesis isTaken
  | case10 parsed inRun switch spelling attached cluster ofSwitch rest notPending noHelp
      inductionHypothesis =>
      exact inductionHypothesis isTaken

/-- The switches taken before do not count for what is taken next. -/
theorem takeTokens_otherUses
    (others : List Use)
    (isTaken : takeTokens grammar parsed inRun tokens = .ok taken) :
    takeTokens grammar { parsed with uses := others } inRun tokens =
      .ok { taken with uses := others ++ usesOf grammar tokens } := by
  have ignoresUses : ∃ uses,
      takeTokens grammar { parsed with uses := others } inRun tokens =
        .ok { taken with uses := uses } := by
    fun_induction takeTokens grammar parsed inRun tokens generalizing others with
    | case1 parsed =>
        cases isTaken
        exact ⟨others, rfl⟩
    | case2 parsed inRun argument rest starts inductionHypothesis =>
        have withPlain : { parsed with uses := others }.withPlain inRun argument =
            { parsed.withPlain inRun argument with uses := others } := by
          simp only [Parsed.withPlain]
          split
          · rfl
          · split <;> rfl
        rw [takeTokens, withPlain]
        exact inductionHypothesis others isTaken
    | case3 parsed inRun rest =>
        cases isTaken
        refine ⟨others, ?_⟩
        rw [takeTokens]
        simp only [Parsed.withDivided]
        split <;> split <;> rfl
    | case4 parsed inRun argument rest inductionHypothesis =>
        exact inductionHypothesis others isTaken
    | case5 | case6 | case8 | case9 =>
        cases isTaken
    | case7 parsed inRun switch spelling attached cluster ofSwitch pending value rest isPending
        noHelp inductionHypothesis =>
        obtain ⟨uses, isTakenToo⟩ :=
          inductionHypothesis (others ++ cluster.uses ++ [⟨pending, some value⟩]) isTaken
        refine ⟨uses, ?_⟩
        simpa [takeTokens, ofSwitch, isPending, noHelp, Parsed.withCluster] using isTakenToo
    | case10 parsed inRun switch spelling attached cluster ofSwitch rest notPending noHelp
        inductionHypothesis =>
        obtain ⟨uses, isTakenToo⟩ := inductionHypothesis (others ++ cluster.uses) isTaken
        refine ⟨uses, ?_⟩
        simpa [takeTokens, ofSwitch, notPending, noHelp, Parsed.withCluster] using isTakenToo
  obtain ⟨uses, isTakenToo⟩ := ignoresUses
  rw [isTakenToo, ← uses_of_takeTokens isTakenToo]

/-- If nothing is left over after the run of the operands has ended, it need not have ended. -/
theorem takeTokens_of_ended
    (isTaken : takeTokens grammar parsed false tokens = .ok taken)
    (noneLeft : taken.extras = []) :
    takeTokens grammar parsed inRun tokens = .ok taken := by
  have noneLeftBefore {later : Parsed} {inRun : Bool} {rest : List Token}
      (isTaken : takeTokens grammar later inRun rest = .ok taken) : later.extras = [] := by
    have isPrefix := extras_prefix_of_takeTokens isTaken
    rwa [noneLeft, List.prefix_nil] at isPrefix
  cases tokens with
  | nil =>
      exact isTaken
  | cons token rest =>
      cases token with
      | unknown argument =>
          exact isTaken
      | known switch spelling attached =>
          rw [takeTokens] at isTaken ⊢
          exact isTaken
      | plain argument =>
          rw [takeTokens] at isTaken ⊢
          cases isOperands : parsed.operands with
          | none =>
              simpa [Parsed.withPlain, isOperands] using isTaken
          | some operands =>
              -- The argument would be left over.
              have left := noneLeftBefore isTaken
              simp [Parsed.withPlain, isOperands] at left
      | divider =>
          rw [takeTokens] at isTaken ⊢
          cases isOperands : parsed.operands with
          | none =>
              simpa [Parsed.withDivided, isOperands] using isTaken
          | some operands =>
              cases isTaken
              simp [Parsed.withDivided, isOperands] at noneLeft

/--
Tokens without a divider that are taken up to something other than a plain argument are
taken in the same way up to anything else.
-/
theorem exists_takeTokens_append
    {firsts lasts : List Token}
    (noDivider : .divider ∉ firsts)
    (notPlain : ∀ argument, lasts.head? ≠ some (.plain argument))
    (isTaken : takeTokens grammar parsed inRun (firsts ++ lasts) = .ok taken) :
    ∃ middle middleInRun, ∀ rest,
      takeTokens grammar parsed inRun (firsts ++ rest) =
        takeTokens grammar middle middleInRun rest := by
  -- Along the tokens as they are used: a switch goes with the argument that is its value.
  fun_induction usesOf grammar firsts generalizing parsed inRun with
  | case1 =>
      exact ⟨parsed, inRun, fun rest => rfl⟩
  | case2 argument firsts inductionHypothesis =>
      rw [List.cons_append, takeTokens] at isTaken
      obtain ⟨middle, middleInRun, sameRest⟩ :=
        inductionHypothesis (by simpa using noDivider) isTaken
      exact ⟨middle, middleInRun, fun rest => by rw [List.cons_append, takeTokens, sameRest]⟩
  | case3 argument firsts inductionHypothesis =>
      rw [List.cons_append, takeTokens] at isTaken
      obtain ⟨middle, middleInRun, sameRest⟩ :=
        inductionHypothesis (by simpa using noDivider) isTaken
      exact ⟨middle, middleInRun, fun rest => by rw [List.cons_append, takeTokens, sameRest]⟩
  | case4 =>
      simp at noDivider
  | case5 switch spelling attached firsts fault ofSwitch =>
      rw [List.cons_append, takeTokens, ofSwitch] at isTaken
      cases isTaken
  | case6 switch spelling attached cluster ofSwitch pending value firsts isPending
      inductionHypothesis =>
      rw [List.cons_append, List.cons_append, takeTokens, ofSwitch] at isTaken
      simp only [isPending] at isTaken
      split_ifs at isTaken with noHelp
      obtain ⟨middle, middleInRun, sameRest⟩ :=
        inductionHypothesis (by simpa using noDivider) isTaken
      refine ⟨middle, middleInRun, fun rest => ?_⟩
      rw [List.cons_append, List.cons_append, takeTokens, ofSwitch]
      simp only [isPending]
      rw [if_neg noHelp, sameRest]
  | case7 switch spelling attached cluster ofSwitch firsts noValueNext inductionHypothesis =>
      rw [List.cons_append, takeTokens, ofSwitch] at isTaken
      cases isPending : cluster.pending with
      | none =>
          simp only [isPending] at isTaken
          split_ifs at isTaken with noHelp
          obtain ⟨middle, middleInRun, sameRest⟩ :=
            inductionHypothesis (by simpa using noDivider) isTaken
          refine ⟨middle, middleInRun, fun rest => ?_⟩
          rw [List.cons_append, takeTokens, ofSwitch]
          simp only [isPending]
          rw [if_neg noHelp, sameRest]
      | some pending =>
          -- The value that is still to come is neither among these tokens nor after them.
          have noValue (value : Text) (rest : List Token) :
              firsts ++ lasts ≠ .plain value :: rest := by
            intro isNext
            cases firsts with
            | nil =>
                exact notPlain value (by rw [← List.nil_append lasts, isNext]; rfl)
            | cons token others =>
                rw [List.cons_append, List.cons.injEq] at isNext
                exact noValueNext pending value others isPending (by rw [isNext.1])
          simp only [isPending] at isTaken
          cases isTaken

end Taking

/-! ## Switches without values -/

section Alone

variable
  {grammar : Grammar}
  {switch : Switch}
  {parsed taken : Parsed}
  {inRun : Bool}
  {firsts lasts : List Token}

/-- Without a switch that takes no value the rest is taken as it is with it. -/
theorem takeTokens_without
    (noValue : switch.takesValue = false)
    (noHelp : switch ≠ .help)
    {spelling : Text}
    (noDivider : .divider ∉ firsts)
    (isTaken : takeTokens grammar parsed inRun (firsts ++ .known switch spelling none :: lasts) =
      .ok taken)
    (noneLeft : taken.extras = []) :
    ∃ before after,
      taken.uses = before ++ ⟨switch, none⟩ :: after ∧
        takeTokens grammar parsed inRun (firsts ++ lasts) =
          .ok { taken with uses := before ++ after } := by
  obtain ⟨middle, middleInRun, sameRest⟩ :=
    exists_takeTokens_append noDivider (by simp) isTaken
  rw [sameRest, takeTokens_alone noValue noHelp] at isTaken
  refine ⟨middle.uses, usesOf grammar lasts, ?_, ?_⟩
  · rw [uses_of_takeTokens isTaken]
    simp
  · have isTakenToo := takeTokens_otherUses middle.uses isTaken
    rw [sameRest]
    exact takeTokens_of_ended isTakenToo noneLeft

/-- A switch that takes no value can be put first. -/
theorem takeTokens_first
    (noValue : switch.takesValue = false)
    (noHelp : switch ≠ .help)
    (spelling : Text)
    (isTaken : takeTokens grammar { } false lasts = .ok taken) :
    takeTokens grammar { } false (.known switch spelling none :: lasts) =
      .ok { taken with uses := ⟨switch, none⟩ :: taken.uses } := by
  rw [takeTokens_alone noValue noHelp]
  refine (takeTokens_otherUses [⟨switch, none⟩] isTaken).trans ?_
  rw [uses_of_takeTokens isTaken]
  rfl

/-- A switch that takes no value can be put before another switch, or last. -/
theorem takeTokens_before
    (noValue : switch.takesValue = false)
    (noHelp : switch ≠ .help)
    (spelling : Text)
    (noDivider : .divider ∉ firsts)
    (isNext : ∀ token, lasts.head? = some token → ∃ next other attached,
      token = .known next other attached)
    (isTaken : takeTokens grammar parsed inRun (firsts ++ lasts) = .ok taken) :
    ∃ before after,
      taken.uses = before ++ after ∧
        takeTokens grammar parsed inRun (firsts ++ .known switch spelling none :: lasts) =
          .ok { taken with uses := before ++ ⟨switch, none⟩ :: after } := by
  have notPlain (argument : Text) : lasts.head? ≠ some (.plain argument) := by
    intro isPlain
    obtain ⟨_, _, _, isKnown⟩ := isNext _ isPlain
    cases isKnown
  obtain ⟨middle, middleInRun, sameRest⟩ := exists_takeTokens_append noDivider notPlain isTaken
  rw [sameRest] at isTaken
  -- Whether a run of plain arguments goes on makes no difference for a switch.
  have isTakenToo : takeTokens grammar middle false lasts = .ok taken := by
    cases lasts with
    | nil =>
        exact isTaken
    | cons token rest =>
        obtain ⟨_, _, _, rfl⟩ := isNext token rfl
        rw [takeTokens] at isTaken ⊢
        exact isTaken
  refine ⟨middle.uses, usesOf grammar lasts, uses_of_takeTokens isTakenToo, ?_⟩
  have withUse := takeTokens_otherUses (middle.uses ++ [Use.mk switch none]) isTakenToo
  rw [sameRest, takeTokens_alone noValue noHelp, withUse]
  simp

end Alone

/-! ## Switches that only show -/

/-- A switch that asks for the report to be printed, or for more to be told of a run. -/
def Switch.Shows
    (switch : Switch) :
    Prop :=
  switch = .print ∨ switch = .verbose

namespace Switch.Shows

variable
  {switch : Switch}

/-- A switch that only shows takes no value. -/
theorem noValue
    (shows : switch.Shows) :
    switch.takesValue = false := by
  rcases shows with rfl | rfl <;> rfl

/-- A switch that only shows does not ask for help. -/
theorem noHelp
    (shows : switch.Shows) :
    switch ≠ .help := by
  rcases shows with rfl | rfl <;> decide

end Switch.Shows

/-- The arguments with a switch more that only shows. -/
def Arguments.showing
    (arguments : Arguments) :
    Switch → Arguments
  | .print => { arguments with print := true }
  | .verbose => { arguments with verbose := true }
  | _ => arguments

/-- What a release leaves of some arguments is not told by a switch that only shows. -/
theorem Release.keptOf_showing
    {switch : Switch}
    (shows : switch.Shows)
    (release : Release)
    (arguments : Arguments) :
    release.keptOf (arguments.showing switch) = (release.keptOf arguments).showing switch := by
  rcases shows with rfl | rfl <;> rfl

/-- A switch that only shows adds itself to the arguments, and changes nothing else. -/
theorem Arguments.ofUses_showing
    {switch : Switch}
    (shows : switch.Shows)
    (before after : List Use)
    (paths : List Text) :
    ofUses (before ++ ⟨switch, none⟩ :: after) paths =
      (ofUses (before ++ after) paths).showing switch := by
  have sameGiven (other : Switch) :
      givenFor other (before ++ ⟨switch, none⟩ :: after) = givenFor other (before ++ after) := by
    simp [givenFor]
  rcases shows with rfl | rfl <;>
    simp [ofUses, showing, repeated?, sameGiven, occurs]

section Showing

variable
  {switch : Switch}
  {spelling : Text}
  {before after : List Text}
  {arguments : Arguments}

/-- A command line with a switch that only shows is read without it in the same way. -/
theorem read_without
    (shows : switch.Shows)
    (isSpelling : spelling ∈ switch.spellings)
    (noDivider : Token.dividerText ∉ before)
    (isRead : read (before ++ spelling :: after) = .ok arguments) :
    ∃ others, read (before ++ after) = .ok others ∧ arguments = others.showing switch := by
  obtain ⟨rest, tokens, taken, paths, isCount, tokenized, isTaken, isPaths, noneLeft, rfl⟩ :=
    read_eq_ok_iff.mp isRead
  cases before with
  | nil =>
      -- The switch is not the name of the command.
      cases isCount
      exact absurd (Switch.shape_spelling isSpelling).1 (by decide)
  | cons name before =>
      cases isCount
      rw [List.mem_cons, not_or] at noDivider
      obtain ⟨firsts, _, areFirsts, areOthers, rfl⟩ :=
        (Token.ofArguments_append_eq_ok_iff noDivider.2).mp tokenized
      rw [Token.ofArguments_spelling isSpelling] at areOthers
      cases areLasts : Token.ofArguments Grammar.count after with
      | error fault =>
          rw [areLasts] at areOthers
          cases areOthers
      | ok lasts =>
          rw [areLasts] at areOthers
          cases areOthers
          obtain ⟨usesBefore, usesAfter, isUses, isTakenToo⟩ :=
            takeTokens_without shows.noValue shows.noHelp
              (Token.divider_notMem noDivider.2 areFirsts) isTaken noneLeft
          have tokenizedToo :=
            (Token.ofArguments_append_eq_ok_iff noDivider.2).mpr
              ⟨firsts, lasts, areFirsts, areLasts, rfl⟩
          refine ⟨_, read_eq_ok_iff.mpr ⟨before ++ after, _, _, paths, rfl, tokenizedToo,
            isTakenToo, isPaths, noneLeft, rfl⟩, ?_⟩
          rw [isUses, Arguments.ofUses_showing shows]

/-- A switch that only shows can be put right after the name of the command. -/
theorem read_showFirst
    (shows : switch.Shows)
    (isSpelling : spelling ∈ switch.spellings)
    (isRead : read (countName :: after) = .ok arguments) :
    read (countName :: spelling :: after) = .ok (arguments.showing switch) := by
  obtain ⟨rest, tokens, taken, paths, isCount, tokenized, isTaken, isPaths, noneLeft, rfl⟩ :=
    read_eq_ok_iff.mp isRead
  cases isCount
  have tokenizedToo := Token.ofArguments_spelling isSpelling after
  rw [tokenized] at tokenizedToo
  have shown := Arguments.ofUses_showing shows [] taken.uses paths
  exact read_eq_ok_iff.mpr ⟨spelling :: after, _, _, paths, rfl, tokenizedToo,
    takeTokens_first shows.noValue shows.noHelp spelling isTaken, isPaths, noneLeft, shown.symm⟩

/-- An argument that is a switch. -/
def IsSwitch
    (argument : Text) :
    Prop :=
  ∃ switch spelling attached,
    Token.ofArgument Grammar.count argument = .ok (.known switch spelling attached)

/-- The tokens of arguments that start with a switch start with its token. -/
theorem head?_of_isSwitch
    {arguments : List Text}
    {tokens : List Token}
    (isNext : ∀ argument, arguments.head? = some argument → IsSwitch argument)
    (tokenized : Token.ofArguments Grammar.count arguments = .ok tokens) :
    ∀ token, tokens.head? = some token → ∃ switch spelling attached,
      token = .known switch spelling attached := by
  cases arguments with
  | nil =>
      cases tokenized
      simp
  | cons argument rest =>
      obtain ⟨switch, spelling, attached, isKnown⟩ := isNext argument rfl
      have notDivider : argument ≠ Token.dividerText := by
        rintro rfl
        have isFault : (Token.ofArgument Grammar.count Token.dividerText).toOption = none := by
          decide
        rw [isKnown] at isFault
        cases isFault
      rw [Token.ofArguments_cons notDivider isKnown] at tokenized
      cases areOthers : Token.ofArguments Grammar.count rest with
      | error fault =>
          rw [areOthers] at tokenized
          cases tokenized
      | ok others =>
          rw [areOthers] at tokenized
          cases tokenized
          rintro _ ⟨⟩
          exact ⟨switch, spelling, attached, rfl⟩

/-- A switch that only shows can be put before another switch, or last, if no divider is before. -/
theorem read_showBefore
    (shows : switch.Shows)
    (isSpelling : spelling ∈ switch.spellings)
    (noDivider : Token.dividerText ∉ before)
    (isNext : ∀ argument, after.head? = some argument → IsSwitch argument)
    (isRead : read (before ++ after) = .ok arguments) :
    read (before ++ spelling :: after) = .ok (arguments.showing switch) := by
  obtain ⟨rest, tokens, taken, paths, isCount, tokenized, isTaken, isPaths, noneLeft, rfl⟩ :=
    read_eq_ok_iff.mp isRead
  have notFirst : before ≠ [] := by
    rintro rfl
    have isPlain : Token.ofArgument Grammar.count countName = .ok (.plain countName) := by
      decide
    obtain ⟨_, _, _, isKnown⟩ := isNext countName (by rw [← List.nil_append after, isCount]; rfl)
    cases isPlain.symm.trans isKnown
  obtain ⟨name, before, rfl⟩ := List.exists_cons_of_ne_nil notFirst
  cases isCount
  rw [List.mem_cons, not_or] at noDivider
  obtain ⟨firsts, lasts, areFirsts, areLasts, rfl⟩ :=
    (Token.ofArguments_append_eq_ok_iff noDivider.2).mp tokenized
  have isSwitch : Token.ofArguments Grammar.count (spelling :: after) =
      .ok (.known switch spelling none :: lasts) := by
    rw [Token.ofArguments_spelling isSpelling, areLasts]
    rfl
  obtain ⟨usesBefore, usesAfter, isUses, isTakenToo⟩ :=
    takeTokens_before shows.noValue shows.noHelp spelling
      (Token.divider_notMem noDivider.2 areFirsts) (head?_of_isSwitch isNext areLasts) isTaken
  have tokenizedToo :=
    (Token.ofArguments_append_eq_ok_iff noDivider.2).mpr ⟨_, _, areFirsts, isSwitch, rfl⟩
  rw [isUses, ← Arguments.ofUses_showing shows]
  exact read_eq_ok_iff.mpr ⟨before ++ spelling :: after, _, _, paths, rfl, tokenizedToo,
    isTakenToo, isPaths, noneLeft, rfl⟩

end Showing

end LineTally.CommandLine
