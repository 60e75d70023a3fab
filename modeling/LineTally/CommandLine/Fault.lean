import LineTally.CommandLine.Switch
import LineTally.Text.Quoted

namespace LineTally.CommandLine

/-!
# Usage faults

What can be wrong with a command line.
-/

/-- A reason for which a command line is not understood. -/
inductive UsageFault where
  /-- The start of a spelling fits several switches. -/
  | ambiguous (argument : Text) (spellings : List Text)
  /-- A switch that takes a value has none. -/
  | valueMissing (switch : Switch)
  /-- A switch that takes no value has one. -/
  | valueIgnored (switch : Switch) (value : Text)
  /-- An argument that has to be there is not. -/
  | required (name : Text)
  /-- The program has no such command. -/
  | unknownCommand (name : Text)
  /-- Arguments are left over. -/
  | unrecognized (arguments : List Text)
  deriving Repr, DecidableEq

namespace UsageFault

/-- What the message says. -/
def message :
    UsageFault → Text
  | .ambiguous argument spellings =>
      "ambiguous option: ".toList ++ argument ++ " could match ".toList
        ++ ", ".toList.intercalate spellings
  | .valueMissing switch =>
      "argument ".toList ++ switch.label ++ ": expected one argument".toList
  | .valueIgnored switch value =>
      "argument ".toList ++ switch.label ++ ": ignored explicit argument ".toList
        ++ value.quoted
  | .required name => "the following arguments are required: ".toList ++ name
  | .unknownCommand name =>
      "argument command: invalid choice: ".toList ++ name.quoted
        ++ " (choose from 'count')".toList
  | .unrecognized arguments =>
      "unrecognized arguments: ".toList ++ [' '].intercalate arguments

end UsageFault

end LineTally.CommandLine
