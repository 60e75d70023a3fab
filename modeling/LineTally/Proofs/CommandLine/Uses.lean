import LineTally.Proofs.CommandLine.Command
import Mathlib.Tactic.SplitIfs

namespace LineTally.CommandLine

/-!
# The switches of a command line

Which switches a command line uses is told by its tokens alone, from the first to the
divider: it does not matter what the plain arguments between them are taken for.  A switch
has a value with it exactly if it takes one.
-/

/-- The switches that occur in some tokens, in their order. -/
def usesOf
    (grammar : Grammar) :
    List Token → List Use
  | [] => []
  | .plain _ :: rest => usesOf grammar rest
  | .unknown _ :: rest => usesOf grammar rest
  | .divider :: _ => []
  | .known switch spelling attached :: rest =>
      match Cluster.ofSwitch grammar switch spelling attached with
      | .error _ => []
      | .ok cluster =>
          match cluster.pending, rest with
          | some pending, .plain value :: rest =>
              cluster.uses ++ ⟨pending, some value⟩ :: usesOf grammar rest
          | _, rest => cluster.uses ++ usesOf grammar rest

/-- A plain argument adds no switch to a command line. -/
@[simp]
theorem Parsed.uses_withPlain
    (parsed : Parsed)
    (inRun : Bool)
    (argument : Text) :
    (parsed.withPlain inRun argument).uses = parsed.uses := by
  rw [withPlain]
  split
  · rfl
  · split <;> rfl

/-- The divider and what follows it add no switch to a command line. -/
@[simp]
theorem Parsed.uses_withDivided
    (parsed : Parsed)
    (inRun : Bool)
    (arguments : List Text) :
    (parsed.withDivided inRun arguments).uses = parsed.uses := by
  rw [withDivided]
  split <;> split <;> rfl

/-- What is taken from some tokens has the switches that occur in them, after those before. -/
theorem uses_of_takeTokens
    {grammar : Grammar}
    {parsed taken : Parsed}
    {inRun : Bool}
    {tokens : List Token}
    (isTaken : takeTokens grammar parsed inRun tokens = .ok taken) :
    taken.uses = parsed.uses ++ usesOf grammar tokens := by
  -- Along the tokens: only a known switch adds uses, and with it goes the argument it takes.
  fun_induction takeTokens grammar parsed inRun tokens with
  | case1 parsed =>
      cases isTaken
      simp [usesOf]
  | case2 parsed inRun argument rest starts inductionHypothesis =>
      simpa [usesOf] using inductionHypothesis isTaken
  | case3 parsed inRun rest =>
      cases isTaken
      simp [usesOf]
  | case4 parsed inRun argument rest inductionHypothesis =>
      simpa [usesOf] using inductionHypothesis isTaken
  | case5 | case6 | case8 | case9 =>
      cases isTaken
  | case7 parsed inRun switch spelling attached cluster ofSwitch pending value rest isPending
      noHelp inductionHypothesis =>
      rw [inductionHypothesis isTaken]
      simp [usesOf, ofSwitch, isPending, Parsed.withCluster]
  | case10 parsed inRun switch spelling attached cluster ofSwitch rest notPending noHelp
      inductionHypothesis =>
      rw [inductionHypothesis isTaken]
      simp [usesOf, ofSwitch, notPending, Parsed.withCluster]

/-- A switch that has a value with it exactly if it takes one. -/
def Use.IsComplete
    (use : Use) :
    Prop :=
  use.given.isSome = use.switch.takesValue

/-- Switches of one argument that are complete, up to one whose value is still to come. -/
structure Cluster.IsComplete
    (cluster : Cluster) :
    Prop where
  uses : ∀ use ∈ cluster.uses, use.IsComplete
  pending : ∀ switch, cluster.pending = some switch → switch.takesValue = true

/-- The switches in some letters are complete. -/
theorem Cluster.isComplete_ofLetters
    {grammar : Grammar}
    {before : List Use}
    {previous : Switch}
    {letters : Text}
    {cluster : Cluster}
    (areBefore : ∀ use ∈ before, use.IsComplete)
    (noValue : previous.takesValue = false)
    (isRead : ofLetters grammar before previous letters = .ok cluster) :
    cluster.IsComplete := by
  have withPrevious (before : List Use) (previous : Switch)
      (areBefore : ∀ use ∈ before, use.IsComplete) (noValue : previous.takesValue = false) :
      ∀ use ∈ before ++ [⟨previous, none⟩], use.IsComplete := by
    intro use member
    rcases List.mem_append.mp member with isBefore | isPrevious
    · exact areBefore use isBefore
    · rw [List.mem_singleton] at isPrevious
      simp [isPrevious, Use.IsComplete, noValue]
  -- All letters but the last take no value; what is left of the argument is for the last.
  fun_induction ofLetters grammar before previous letters with
  | case1 before previous =>
      cases isRead
      exact ⟨withPrevious before previous areBefore noValue, by simp⟩
  | case2 =>
      cases isRead
  | case3 before previous letter rest switch found before' notTaking inductionHypothesis =>
      refine inductionHypothesis (withPrevious before previous areBefore noValue) ?_ isRead
      simpa using notTaking
  | case4 before previous letter rest switch found before' taking atEnd =>
      cases isRead
      refine ⟨withPrevious before previous areBefore noValue, ?_⟩
      rintro _ ⟨⟩
      simpa using taking
  | case5 before previous letter rest switch found before' taking notAtEnd =>
      cases isRead
      refine ⟨fun use member => ?_, by simp⟩
      rcases List.mem_append.mp member with isBefore | isLast
      · exact withPrevious before previous areBefore noValue use isBefore
      · rw [List.mem_singleton] at isLast
        have takes : switch.takesValue = true := by simpa using taking
        simp [isLast, Use.IsComplete, takes]

/-- The switches of one argument are complete. -/
theorem Cluster.isComplete_ofSwitch
    {grammar : Grammar}
    {switch : Switch}
    {spelling : Text}
    {attached : Option Text}
    {cluster : Cluster}
    (isRead : ofSwitch grammar switch spelling attached = .ok cluster) :
    cluster.IsComplete := by
  cases attached with
  | none =>
      cases takes : switch.takesValue with
      | true =>
          simp only [ofSwitch, takes, if_true] at isRead
          cases isRead
          exact ⟨by simp, by simpa using takes⟩
      | false =>
          simp only [ofSwitch, takes] at isRead
          cases isRead
          exact ⟨by simp [Use.IsComplete, takes], by simp⟩
  | some value =>
      cases takes : switch.takesValue with
      | true =>
          simp only [ofSwitch, takes, if_true] at isRead
          cases isRead
          exact ⟨by simp [Use.IsComplete, takes], by simp⟩
      | false =>
          simp only [ofSwitch, takes, Bool.false_eq_true, if_false] at isRead
          split_ifs at isRead
          exact isComplete_ofLetters (by simp) takes isRead

/-- All switches that occur in some tokens are complete. -/
theorem isComplete_of_mem_usesOf
    {grammar : Grammar}
    {tokens : List Token} :
    ∀ use ∈ usesOf grammar tokens, use.IsComplete := by
  fun_induction usesOf grammar tokens with
  | case1 | case4 | case5 =>
      simp
  | case2 argument rest inductionHypothesis =>
      exact inductionHypothesis
  | case3 argument rest inductionHypothesis =>
      exact inductionHypothesis
  | case6 switch spelling attached cluster ofSwitch pending value rest isPending
      inductionHypothesis =>
      obtain ⟨areComplete, takes⟩ := Cluster.isComplete_ofSwitch ofSwitch
      intro use member
      rw [List.mem_append, List.mem_cons] at member
      rcases member with inCluster | isPendingUse | inRest
      · exact areComplete use inCluster
      · simp [isPendingUse, Use.IsComplete, takes pending isPending]
      · exact inductionHypothesis use inRest
  | case7 switch spelling attached cluster ofSwitch rest notTaken inductionHypothesis =>
      intro use member
      rcases List.mem_append.mp member with inCluster | inRest
      · exact (Cluster.isComplete_ofSwitch ofSwitch).uses use inCluster
      · exact inductionHypothesis use inRest

/-- A switch that takes a value has one for each time it occurs. -/
theorem givenFor_eq_nil_iff
    {uses : List Use}
    {switch : Switch}
    (areComplete : ∀ use ∈ uses, use.IsComplete)
    (takes : switch.takesValue = true) :
    givenFor switch uses = [] ↔ occurs switch uses = false := by
  rw [givenFor, List.filterMap_eq_nil_iff, occurs, List.any_eq_false]
  refine forall₂_congr fun use member => ?_
  by_cases same : use.switch = switch
  · have isGiven : use.given.isSome = true := by
      rw [areComplete use member, same, takes]
    have notNone : use.given ≠ none := by
      rintro none
      simp [none] at isGiven
    simp [same, notNone]
  · simp [same]

/-- A command line that is understood names the command, and the switches tell the arguments. -/
theorem exists_tokens_of_read
    {commandLine : List Text}
    {arguments : Arguments}
    (isRead : read commandLine = .ok arguments) :
    ∃ rest tokens paths,
      commandLine = countName :: rest ∧
        Token.ofArguments Grammar.count rest = .ok tokens ∧
        arguments = .ofUses (usesOf Grammar.count tokens) paths := by
  obtain ⟨rest, tokens, taken, paths, isCount, tokenized, isTaken, -, -, rfl⟩ :=
    read_eq_ok_iff.mp isRead
  refine ⟨rest, tokens, paths, isCount, tokenized, ?_⟩
  rw [uses_of_takeTokens isTaken]
  rfl

end LineTally.CommandLine
