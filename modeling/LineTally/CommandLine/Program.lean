import LineTally.CommandLine.Arguments
import LineTally.Run.Basic
import LineTally.Settings.Load

namespace LineTally.CommandLine

/-!
# The program

The program reads its command line, lays the switches over the settings of a
file, runs, and prints the report if asked to.  A usage fault and every fault of
the program's own kind end it with code 2; any other fault is passed on.
-/

/-- How the program ends: with an exit code, or with a fault that it does not handle. -/
inductive Ending where
  | exit (code : Nat)
  | fault (fault : Fault)
  deriving Repr, DecidableEq

/-- What the program leaves behind. -/
structure Transcript where
  disk : Disk
  stdout : Text
  stderr : Text
  ending : Ending
  deriving Repr

/-- The lines of the notes that are shown. -/
def noteLines
    (verbose : Bool)
    (notes : List Note) :
    Text :=
  (notes.filter fun note => verbose || note.isShown).flatMap fun note => note.line ++ ['\n']

/-- What is given for a switch, as a value: where nothing is left, it is an empty list. -/
def Given.toValue :
    Given → Value
  | .text value => .string value
  | .nothing => .list []

/-- What is given for a switch that may be repeated, as a value. -/
def repeatedValue :
    Option (List Given) → Value
  | none => .absent
  | some items => .list (items.map Given.toValue)

/-- What is given for a switch of which the last occurrence counts, as a value. -/
def lastValue :
    Option Given → Value
  | none => .absent
  | some given => given.toValue

namespace Arguments

/-- The settings file that a command line names, if it names one. -/
def settingsFile
    (arguments : Arguments) :
    Option Path :=
  match arguments.config with
  | none | some .nothing | some (.text []) => none
  | some (.text path) => some (.ofText path)

/-- The settings of a command line that names a settings file or none. -/
def baseSettings
    (arguments : Arguments)
    (disk : Disk) :
    Journal Settings :=
  match arguments.settingsFile with
  | none => Journal.pure .default
  | some path => Settings.load disk path

/-- The settings that the switches set before a run. -/
def overrides
    (arguments : Arguments) :
    Settings.Overrides :=
  [ (.excludeDirs, Setting.excludeDirs.held (repeatedValue arguments.excludeDirs)),
    (.writeJson, if arguments.json then .bool true else .absent) ]

/-- The input of a command line: its one path, or the list of all. -/
def input
    (arguments : Arguments) :
    Value :=
  match arguments.paths with
  | [path] => .string path
  | paths => .list (paths.map .string)

/-- What a command line asks for, given the settings of its file. -/
def request
    (arguments : Arguments)
    (settings : Settings) :
    Request where
  input := arguments.input
  fileTypes := repeatedValue arguments.fileTypes
  ignoreFiles := repeatedValue arguments.ignoreFiles
  saveDir := lastValue arguments.saveDir
  settings := settings.merge arguments.overrides

/-- The run that a command line asks for. -/
def run
    (arguments : Arguments)
    (disk : Disk) :
    Outcome Tally :=
  let loaded := arguments.baseSettings disk
  match loaded.result with
  | .error fault => ⟨disk, ⟨loaded.notes, .error fault⟩⟩
  | .ok settings =>
      let outcome := (arguments.request settings).run disk
      ⟨outcome.disk, ⟨loaded.notes ++ outcome.journal.notes, outcome.journal.result⟩⟩

/-- The report as it is printed. -/
def printed
    (arguments : Arguments)
    (tally : Tally) :
    Except Fault Text :=
  let report := if arguments.json then Report.documentText tally else Report.writtenText tally
  report.mapError .number

end Arguments

/-- The transcript of a program that has run. -/
def transcript
    (arguments : Arguments)
    (outcome : Outcome Tally) :
    Transcript :=
  let notes := noteLines arguments.verbose outcome.journal.notes
  let ended stdout ending : Transcript := ⟨outcome.disk, stdout, notes, ending⟩
  match outcome.journal.result with
  | .error fault =>
      if fault.isOwn then
        { ended [] (.exit 2) with
          stderr := notes ++ "linecount: error: ".toList ++ fault.message ++ ['\n'] }
      else
        ended [] (.fault fault)
  | .ok tally =>
      if arguments.print then
        match arguments.printed tally with
        | .ok report => ended (report ++ ['\n']) (.exit 0)
        | .error fault => ended [] (.fault fault)
      else
        ended [] (.exit 0)

/-- The transcript of a program that ends before it starts. -/
def Halt.transcript
    (halt : Halt)
    (disk : Disk) :
    Transcript :=
  match halt.stop with
  | .help => ⟨disk, halt.scope.help, [], .exit 0⟩
  | .fault fault =>
      ⟨disk, [],
        halt.scope.usage ++ halt.scope.name ++ ": error: ".toList ++ fault.message ++ ['\n'],
        .exit 2⟩

/-- What the program does with a command line under a release of the library. -/
def Release.program
    (release : Release)
    (disk : Disk)
    (arguments : List Text) :
    Transcript :=
  match release.read arguments with
  | .error halt => halt.transcript disk
  | .ok arguments => transcript arguments (arguments.run disk)

/-- The release that the program is started with. -/
def startRelease : Release := .striking

/-- What the program does with a command line as it is started. -/
def program
    (disk : Disk)
    (arguments : List Text) :
    Transcript :=
  startRelease.program disk arguments

end LineTally.CommandLine
