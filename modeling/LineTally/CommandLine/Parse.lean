import LineTally.CommandLine.Token

namespace LineTally.CommandLine

/-!
# Taking command lines apart

The tokens of a command are taken one after the other.  The first run of plain
arguments between switches is the operands of the command; plain arguments in a
later run are left over, and so is all that looks like a switch and is none.
-/

/-- A switch that occurs, with its value if it takes one. -/
structure Use where
  switch : Switch
  given : Option Text
  deriving Repr, DecidableEq

/-- What a command line consists of. -/
structure Parsed where
  /-- The switches in the order of their occurrence. -/
  uses : List Use := []
  /-- The first run of plain arguments, if there is one. -/
  operands : Option (List Text) := none
  /-- What is left over. -/
  extras : List Text := []
  deriving Repr, DecidableEq

/-- The switches that are taken from one argument. -/
structure Cluster where
  uses : List Use
  /-- The switch at the end that takes its value from the next argument. -/
  pending : Option Switch
  deriving Repr, DecidableEq

namespace Cluster

/--
The switches in the letters after a switch of one dash that takes no value.  A
letter that is no switch makes all letters from it on a value, which the switch
before it does not take.
-/
def ofLetters
    (grammar : Grammar)
    (before : List Use)
    (previous : Switch) :
    Text → Except UsageFault Cluster
  | [] => .ok ⟨before ++ [⟨previous, none⟩], none⟩
  | letter :: rest =>
      match grammar.find? ['-', letter] with
      | none => .error (.valueIgnored previous (letter :: rest))
      | some switch =>
          let before := before ++ [⟨previous, none⟩]
          if !switch.takesValue then
            ofLetters grammar before switch rest
          else if rest.isEmpty then
            .ok ⟨before, some switch⟩
          else
            .ok ⟨before ++ [⟨switch, some rest⟩], none⟩

/-- Whether a spelling has one dash only. -/
def isShort :
    Text → Bool
  | '-' :: '-' :: _ => false
  | _ => true

/-- The switches of one argument. -/
def ofSwitch
    (grammar : Grammar)
    (switch : Switch)
    (spelling : Text)
    (attached : Option Text) :
    Except UsageFault Cluster :=
  match attached with
  | none =>
      if switch.takesValue then
        .ok ⟨[], some switch⟩
      else
        .ok ⟨[⟨switch, none⟩], none⟩
  | some value =>
      if switch.takesValue then
        .ok ⟨[⟨switch, some value⟩], none⟩
      else if !isShort spelling || value.isEmpty then
        .error (.valueIgnored switch value)
      else
        ofLetters grammar [] switch value

end Cluster

namespace Parsed

/-- A command line with a switch taken after what is known of it already. -/
def withCluster
    (parsed : Parsed)
    (cluster : Cluster)
    (value : Option Text) :
    Parsed :=
  let last := cluster.pending.map fun switch => Use.mk switch value
  { parsed with uses := parsed.uses ++ cluster.uses ++ last.toList }

/-- A command line with one more plain argument, in the run that is being read or left over. -/
def withPlain
    (parsed : Parsed)
    (inRun : Bool)
    (argument : Text) :
    Parsed :=
  match parsed.operands with
  | none => { parsed with operands := some [argument] }
  | some operands =>
      if inRun then
        { parsed with operands := some (operands ++ [argument]) }
      else
        { parsed with extras := parsed.extras ++ [argument] }

/-- A command line with the divider and all plain arguments after it. -/
def withDivided
    (parsed : Parsed)
    (inRun : Bool)
    (arguments : List Text) :
    Parsed :=
  match parsed.operands with
  | none =>
      if arguments.isEmpty then
        { parsed with extras := parsed.extras ++ [Token.dividerText] }
      else
        { parsed with operands := some arguments }
  | some operands =>
      if inRun then
        { parsed with operands := some (operands ++ arguments) }
      else
        { parsed with extras := parsed.extras ++ Token.dividerText :: arguments }

end Parsed

/-- What ends the reading of a command line early. -/
inductive Stop where
  /-- Help is asked for. -/
  | help
  | fault (fault : UsageFault)
  deriving Repr, DecidableEq

/--
Takes tokens one after the other.  `inRun` says whether the token before was a
plain argument that became an operand; asking for help ends the reading.
-/
def takeTokens
    (grammar : Grammar)
    (parsed : Parsed)
    (inRun : Bool) :
    List Token → Except Stop Parsed
  | [] => .ok parsed
  | .plain argument :: rest =>
      let starts := parsed.operands.isNone
      takeTokens grammar (parsed.withPlain inRun argument) (inRun || starts) rest
  | .divider :: rest => .ok (parsed.withDivided inRun (rest.map Token.argument))
  | .unknown argument :: rest =>
      takeTokens grammar { parsed with extras := parsed.extras ++ [argument] } false rest
  | .known switch spelling attached :: rest =>
      match Cluster.ofSwitch grammar switch spelling attached with
      | .error fault => .error (.fault fault)
      | .ok cluster =>
          match cluster.pending, rest with
          | some _, .plain value :: rest =>
              if cluster.uses.any fun use => use.switch = .help then
                .error .help
              else
                takeTokens grammar (parsed.withCluster cluster (some value)) false rest
          | some pending, _ => .error (.fault (.valueMissing pending))
          | none, rest =>
              if cluster.uses.any fun use => use.switch = .help then
                .error .help
              else
                takeTokens grammar (parsed.withCluster cluster none) false rest

/-- What the arguments of a command consist of. -/
def parse
    (grammar : Grammar)
    (arguments : List Text) :
    Except Stop Parsed :=
  match Token.ofArguments grammar arguments with
  | .error fault => .error (.fault fault)
  | .ok tokens => takeTokens grammar { } false tokens

end LineTally.CommandLine
