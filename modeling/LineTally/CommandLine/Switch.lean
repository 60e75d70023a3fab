import LineTally.Text.Basic

namespace LineTally.CommandLine

/-!
# Switches

A switch is an argument that starts with a dash and is known by its spellings.
Some switches take a value.  A grammar is the list of switches that a command
knows, in the order in which they are declared.
-/

/-- A switch of the program. -/
inductive Switch where
  | help
  | ext
  | ignore
  | saveDir
  | excludeDir
  | config
  | json
  | print
  | verbose
  deriving Repr, DecidableEq

namespace Switch

/-- The spellings of a switch. -/
def spellings :
    Switch → List Text
  | .help => ["-h".toList, "--help".toList]
  | .ext => ["-e".toList, "--ext".toList]
  | .ignore => ["-i".toList, "--ignore".toList]
  | .saveDir => ["-o".toList, "--save-dir".toList]
  | .excludeDir => ["--exclude-dir".toList]
  | .config => ["--config".toList]
  | .json => ["--json".toList]
  | .print => ["--print".toList]
  | .verbose => ["--verbose".toList]

/-- Whether a switch takes a value. -/
def takesValue :
    Switch → Bool
  | .ext | .ignore | .saveDir | .excludeDir | .config => true
  | .help | .json | .print | .verbose => false

/-- The spellings of a switch as messages give them. -/
def label
    (switch : Switch) :
    Text :=
  ['/'].intercalate switch.spellings

end Switch

/-- The switches that a command knows. -/
abbrev Grammar := List Switch

namespace Grammar

/-- The switches before a command. -/
def outer : Grammar := [.help]

/-- The switches of the counting command. -/
def count : Grammar :=
  [.help, .ext, .ignore, .saveDir, .excludeDir, .config, .json, .print, .verbose]

/-- Every spelling with its switch. -/
def spelled
    (grammar : Grammar) :
    List (Text × Switch) :=
  grammar.flatMap fun switch => switch.spellings.map fun spelling => (spelling, switch)

/-- The switch with exactly the given spelling. -/
def find?
    (grammar : Grammar)
    (spelling : Text) :
    Option Switch :=
  grammar.spelled.lookup spelling

end Grammar

end LineTally.CommandLine
