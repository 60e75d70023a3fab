import LineTally.CommandLine.Program

namespace LineTally.CommandLine.Arguments

/-!
# The reach of a command line

Which paths the program may look at.  The operands and the settings file are
named by the command line; where the reports go may be said by the settings file
only.
-/

/-- The paths that are counted, with all that is below them. -/
def operandPaths
    (arguments : Arguments) :
    List Path :=
  arguments.paths.map Path.ofText

/-- The path of the settings file, if there is one. -/
def settingsPaths
    (arguments : Arguments) :
    List Path :=
  arguments.settingsFile.toList

/-- The folder of the reports and the path of the text report, if the settings name them. -/
def reportPaths
    (arguments : Arguments)
    (disk : Disk) :
    List Path :=
  match (arguments.baseSettings disk).result with
  | .error _ => []
  | .ok settings =>
      let effective := (arguments.request settings).effectiveSettings
      match effective.saveFolder disk, effective.outputName.text? with
      | .ok folder, some name => [folder, Report.textPath folder name]
      | .ok folder, none => [folder]
      | .error _, _ => []

end LineTally.CommandLine.Arguments
