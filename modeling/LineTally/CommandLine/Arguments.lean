import LineTally.CommandLine.Help
import LineTally.CommandLine.Parse

namespace LineTally.CommandLine

/-!
# Arguments of the program

A command line names a command and the arguments of that command.  Switches that
may be repeated add up; of the others the last one counts.

The library that takes command lines apart documents that an attached value is kept
whatever it is, and so does reading here.  Older releases of the library strike out
an attached value of two dashes alone, as if it were a divider.
-/

/-- What is given for a switch that takes a value. -/
inductive Given where
  | text (value : Text)
  /-- A value was struck out, and nothing is left. -/
  | nothing
  deriving Repr, DecidableEq

/-- The arguments of the counting command. -/
structure Arguments where
  paths : List Text
  fileTypes : Option (List Given)
  ignoreFiles : Option (List Given)
  excludeDirs : Option (List Given)
  saveDir : Option Given
  config : Option Given
  json : Bool
  print : Bool
  verbose : Bool
  deriving Repr, DecidableEq

/-- What is given for a switch, in the order of its occurrences. -/
def givenFor
    (switch : Switch)
    (uses : List Use) :
    List Given :=
  uses.filterMap fun use => if use.switch = switch then use.given.map .text else none

/-- What is given for a switch, if it occurs. -/
def repeated?
    (switch : Switch)
    (uses : List Use) :
    Option (List Given) :=
  match givenFor switch uses with
  | [] => none
  | values => some values

/-- Whether a switch occurs. -/
def occurs
    (switch : Switch)
    (uses : List Use) :
    Bool :=
  uses.any fun use => use.switch = switch

namespace Arguments

/-- The arguments that some switches and paths amount to. -/
def ofUses
    (uses : List Use)
    (paths : List Text) :
    Arguments where
  paths := paths
  fileTypes := repeated? .ext uses
  ignoreFiles := repeated? .ignore uses
  excludeDirs := repeated? .excludeDir uses
  saveDir := (givenFor .saveDir uses).getLast?
  config := (givenFor .config uses).getLast?
  json := occurs .json uses
  print := occurs .print uses
  verbose := occurs .verbose uses

end Arguments

/-- The part of the program that a usage fault or a request for help belongs to. -/
inductive Scope where
  | outer
  | count
  deriving Repr, DecidableEq

namespace Scope

/-- How the part is called. -/
def name :
    Scope → Text
  | .outer => "linecount".toList
  | .count => "linecount count".toList

/-- The usage of the part. -/
def usage :
    Scope → Text
  | .outer => outerUsage
  | .count => countUsage

/-- The help of the part. -/
def help :
    Scope → Text
  | .outer => outerHelp
  | .count => countHelp

end Scope

/-- What ends a program before it starts. -/
structure Halt where
  scope : Scope
  stop : Stop
  deriving Repr, DecidableEq

/-- The name of the counting command. -/
def countName : Text := "count".toList

/-- What stands before a command, and the arguments that follow its name. -/
structure Split where
  extras : List Text
  arguments : List Text
  deriving Repr, DecidableEq

/--
Looks for the name of the command among the tokens before it, given the arguments
that the tokens were read from.
-/
def findCommand
    (extras : List Text) :
    List Token → List Text → Except Stop Split
  | .plain name :: _, _ :: arguments =>
      if name = countName then
        .ok ⟨extras, arguments⟩
      else
        .error (.fault (.unknownCommand name))
  | .divider :: _ :: _, _ => .error (.fault (.unknownCommand Token.dividerText))
  | .unknown argument :: tokens, _ :: arguments =>
      findCommand (extras ++ [argument]) tokens arguments
  | .known switch spelling attached :: _, _ =>
      match Cluster.ofSwitch Grammar.outer switch spelling attached with
      | .error fault => .error (.fault fault)
      | .ok _ => .error .help
  | _, _ => .error (.fault (.required "command".toList))

/-- The command line up to the arguments of the command. -/
def splitCommand
    (arguments : List Text) :
    Except Stop Split :=
  match Token.ofArguments Grammar.outer arguments with
  | .error fault => .error (.fault fault)
  | .ok tokens => findCommand [] tokens arguments

/-- The arguments of the counting command, and what is left over of its command line. -/
def countArguments
    (arguments : List Text) :
    Except Stop (Arguments × List Text) :=
  match parse Grammar.count arguments with
  | .error stop => .error stop
  | .ok parsed =>
      match parsed.operands with
      | none => .error (.fault (.required "paths".toList))
      | some paths => .ok (.ofUses parsed.uses paths, parsed.extras)

/-- The arguments that a command line stands for. -/
def read
    (arguments : List Text) :
    Except Halt Arguments :=
  match splitCommand arguments with
  | .error stop => .error ⟨.outer, stop⟩
  | .ok split =>
      match countArguments split.arguments with
      | .error stop => .error ⟨.count, stop⟩
      | .ok (parsed, extras) =>
          match split.extras ++ extras with
          | [] => .ok parsed
          | left => .error ⟨.outer, .fault (.unrecognized left)⟩

/-- The releases of the library that takes command lines apart, by what they keep. -/
inductive Release where
  /-- Attached values are kept, as documented. -/
  | keeping
  /-- An attached value of two dashes alone is struck out. -/
  | striking
  deriving Repr, DecidableEq

namespace Release

/--
What a release leaves of what is given for a switch.  Two dashes alone are only ever given
in one argument with the switch: by themselves they are a divider, and no value.
-/
def kept :
    Release → Given → Given
  | .keeping, given => given
  | .striking, given => if given = .text Token.dividerText then .nothing else given

/-- What a release leaves of some arguments. -/
def keptOf
    (release : Release)
    (arguments : Arguments) :
    Arguments :=
  { arguments with
    fileTypes := arguments.fileTypes.map (List.map release.kept)
    ignoreFiles := arguments.ignoreFiles.map (List.map release.kept)
    excludeDirs := arguments.excludeDirs.map (List.map release.kept)
    saveDir := arguments.saveDir.map release.kept
    config := arguments.config.map release.kept }

/-- The arguments that a command line stands for under a release. -/
def read
    (release : Release)
    (arguments : List Text) :
    Except Halt Arguments :=
  (CommandLine.read arguments).map release.keptOf

end Release

end LineTally.CommandLine
