import LineTally.CommandLine.Arguments
import LineTally.Proofs.Run.Journal
import Mathlib.Tactic.SplitIfs

namespace LineTally.CommandLine

/-!
# The command of a command line

A command line that is understood starts with the name of the command.  What follows is for
the command alone: whatever it is, nothing in it is a fault before the command is reached.
-/

namespace Token

/-- A plain argument is the argument that it is read from. -/
theorem eq_of_ofArgument_plain
    {grammar : Grammar}
    {argument plain : Text}
    (isRead : ofArgument grammar argument = .ok (.plain plain)) :
    plain = argument := by
  have ofDashed_plain (isRead : ofDashed grammar argument = .ok (.plain plain)) :
      plain = argument := by
    rw [ofDashed] at isRead
    split at isRead
    · cases isRead
    · split_ifs at isRead
      · cases isRead
        rfl
      · cases isRead
    · cases isRead
  rw [ofArgument] at isRead
  split at isRead
  · cases isRead
    rfl
  split at isRead
  · cases isRead
  split at isRead
  · cases isRead
    rfl
  split at isRead
  · split at isRead
    · cases isRead
    · exact ofDashed_plain isRead
  · exact ofDashed_plain isRead

/-- Before a command an argument can mean one switch only. -/
theorem length_candidates_outer
    (argument : Text) :
    (candidates Grammar.outer argument).length ≤ 1 := by
  have spelled : Grammar.outer.spelled =
      [(['-', 'h'], .help), (['-', '-', 'h', 'e', 'l', 'p'], .help)] := by
    decide
  unfold candidates
  split
  next rest =>
    -- Two dashes start the long spelling only.
    rw [List.length_map, spelled, List.filter_cons_of_neg (by simp [Text.splitFirst])]
    exact List.length_filter_le _ _
  next =>
    rw [List.length_map, spelled, List.filter_cons, List.filter_cons_of_neg (by simp)]
    split_ifs <;> simp
  · exact Nat.zero_le 1

/-- Before a command every argument has a token. -/
theorem exists_ofArgument_outer
    (argument : Text) :
    ∃ token, ofArgument Grammar.outer argument = .ok token := by
  have dashed : ∃ token, ofDashed Grammar.outer argument = .ok token := by
    have few := length_candidates_outer argument
    rw [ofDashed]
    split
    · exact ⟨_, rfl⟩
    · split_ifs <;> exact ⟨_, rfl⟩
    next notOne notNone =>
      match found : candidates Grammar.outer argument with
      | [] => exact (notNone found).elim
      | [(switch, spelling, attached)] => exact (notOne _ _ _ found).elim
      | _ :: _ :: _ => simp [found] at few
  rw [ofArgument]
  split
  · exact ⟨_, rfl⟩
  split
  · exact ⟨_, rfl⟩
  split
  · exact ⟨_, rfl⟩
  split
  · split
    · exact ⟨_, rfl⟩
    · exact dashed
  · exact dashed

/-- Before a command every command line has its tokens. -/
theorem exists_ofArguments_outer
    (arguments : List Text) :
    ∃ tokens, ofArguments Grammar.outer arguments = .ok tokens := by
  induction arguments with
  | nil =>
      exact ⟨[], rfl⟩
  | cons argument rest inductionHypothesis =>
      obtain ⟨token, isToken⟩ := exists_ofArgument_outer argument
      obtain ⟨tokens, areTokens⟩ := inductionHypothesis
      rw [ofArguments, isToken, areTokens]
      split_ifs <;> exact ⟨_, rfl⟩

end Token

/-- What is left over before a command stays left over. -/
theorem extras_prefix_of_findCommand
    {extras : List Text}
    {tokens : List Token}
    {arguments : List Text}
    {split : Split}
    (found : findCommand extras tokens arguments = .ok split) :
    extras <+: split.extras := by
  fun_induction findCommand extras tokens arguments with
  | case1 =>
      cases found
      exact List.prefix_refl _
  | case4 extras argument tokens first rest inductionHypothesis =>
      exact (List.prefix_append extras [argument]).trans (inductionHypothesis found)
  | case2 | case3 | case5 | case6 | case7 =>
      cases found

/-- Unless something is left over, the name of the command comes first. -/
theorem head_of_findCommand
    {tokens : List Token}
    {first : Text}
    {rest : List Text}
    {split : Split}
    (found : findCommand [] tokens (first :: rest) = .ok split)
    (nothingLeft : split.extras = []) :
    tokens.head? = some (.plain countName) ∧ split.arguments = rest := by
  cases tokens with
  | nil =>
      cases found
  | cons token others =>
      cases token with
      | plain name =>
          rw [findCommand] at found
          split_ifs at found with isCount
          cases found
          exact ⟨by rw [isCount]; rfl, rfl⟩
      | unknown argument =>
          -- An unknown switch before the command is left over for good.
          rw [findCommand] at found
          have isLeft := extras_prefix_of_findCommand found
          simp [nothingLeft] at isLeft
      | divider =>
          cases others <;> cases found
      | known switch spelling attached =>
          simp only [findCommand] at found
          split at found <;> cases found

/-- Unless something is left over, a command line is the name of the command and what follows. -/
theorem eq_of_splitCommand
    {commandLine : List Text}
    {split : Split}
    (isSplit : splitCommand commandLine = .ok split)
    (nothingLeft : split.extras = []) :
    commandLine = countName :: split.arguments := by
  rw [splitCommand] at isSplit
  split at isSplit
  next =>
    cases isSplit
  next tokens tokenized =>
    cases commandLine with
    | nil =>
        cases tokenized
        cases isSplit
    | cons first rest =>
        obtain ⟨isName, isRest⟩ := head_of_findCommand isSplit nothingLeft
        rw [Token.ofArguments] at tokenized
        split at tokenized
        next =>
          cases tokenized
          cases isName
        next =>
          obtain ⟨token, isToken, tokenized⟩ := Except.bind_eq_ok_iff.mp tokenized
          obtain ⟨others, -, made⟩ := Except.bind_eq_ok_iff.mp tokenized
          cases made
          cases isName
          rw [isRest, ← Token.eq_of_ofArgument_plain isToken]

/-- What follows the name of the command is for the command. -/
theorem splitCommand_countName
    (rest : List Text) :
    splitCommand (countName :: rest) = .ok ⟨[], rest⟩ := by
  obtain ⟨tokens, areTokens⟩ := Token.exists_ofArguments_outer rest
  have isPlain : Token.ofArgument Grammar.outer countName = .ok (.plain countName) := by
    decide
  rw [splitCommand, Token.ofArguments, if_neg (by decide), isPlain, areTokens]
  rfl

/-- After the name of the command its arguments are read, and then nothing may be left over. -/
theorem read_countName
    (rest : List Text) :
    read (countName :: rest) =
      match countArguments rest with
      | .error stop => .error ⟨.count, stop⟩
      | .ok (arguments, []) => .ok arguments
      | .ok (_, left) => .error ⟨.outer, .fault (.unrecognized left)⟩ := by
  simp only [read, splitCommand_countName, List.nil_append]
  rcases countArguments rest with stop | ⟨arguments, _ | ⟨first, others⟩⟩ <;> rfl

/-- The arguments that are read are those that the tokens after the name of the command give. -/
theorem read_eq_ok_iff
    {commandLine : List Text}
    {arguments : Arguments} :
    read commandLine = .ok arguments ↔
      ∃ rest tokens taken paths,
        commandLine = countName :: rest ∧
          Token.ofArguments Grammar.count rest = .ok tokens ∧
          takeTokens Grammar.count { } false tokens = .ok taken ∧
          taken.operands = some paths ∧
          taken.extras = [] ∧
          arguments = .ofUses taken.uses paths := by
  constructor
  · intro isRead
    rw [read] at isRead
    split at isRead
    next =>
      cases isRead
    next split isSplit =>
      split at isRead
      next =>
        cases isRead
      next parsed extras counted =>
        split at isRead
        next nothingLeft =>
          cases isRead
          obtain ⟨noneBefore, noneAfter⟩ := List.append_eq_nil_iff.mp nothingLeft
          rw [countArguments, parse] at counted
          cases tokenized : Token.ofArguments Grammar.count split.arguments with
          | error fault =>
              simp [tokenized] at counted
          | ok tokens =>
              simp only [tokenized] at counted
              split at counted
              next =>
                cases counted
              next taken isTaken =>
                split at counted
                next =>
                  cases counted
                next paths isPaths =>
                  cases counted
                  exact ⟨split.arguments, tokens, taken, paths,
                    eq_of_splitCommand isSplit noneBefore, tokenized, isTaken, isPaths, noneAfter,
                    rfl⟩
        next =>
          cases isRead
  · rintro ⟨rest, tokens, taken, paths, rfl, tokenized, isTaken, isPaths, noneLeft, rfl⟩
    have counted : countArguments rest = .ok (.ofUses taken.uses paths, []) := by
      simp only [countArguments, parse, tokenized, isTaken, isPaths, noneLeft]
    rw [read_countName, counted]

/-- Under a release the arguments are what it leaves of those that are read. -/
theorem Release.read_eq_ok_iff
    {release : Release}
    {commandLine : List Text}
    {arguments : Arguments} :
    release.read commandLine = .ok arguments ↔
      ∃ documented, CommandLine.read commandLine = .ok documented ∧
        release.keptOf documented = arguments := by
  rw [read]
  cases CommandLine.read commandLine <;> simp [Except.map]

end LineTally.CommandLine
