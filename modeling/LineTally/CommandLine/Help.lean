import LineTally.Text.Basic

namespace LineTally.CommandLine

/-!
# Usage and help

The texts that say how the program is called.
-/

/-- A text of lines, each with a line feed at its end. -/
def ofLines
    (lines : List String) :
    Text :=
  lines.flatMap fun line => line.toList ++ ['\n']

/-- How the program is called. -/
def outerUsage : Text :=
  ofLines ["usage: linecount [-h] \x7bcount\x7d ..."]

/-- How the counting command is called. -/
def countUsage : Text :=
  ofLines
    [ "usage: linecount count [-h] [-e EXT] [-i NAME] [-o SAVE_DIR]",
      "                       [--exclude-dir NAME] [--config CONFIG] [--json]",
      "                       [--print] [--verbose]",
      "                       paths [paths ...]" ]

/-- The help of the program. -/
def outerHelp : Text :=
  outerUsage ++ ofLines
    [ "",
      "Count code, comment, and blank lines in source files",
      "",
      "positional arguments:",
      "  \x7bcount\x7d",
      "    count     Count lines and write lineCount.txt",
      "",
      "options:",
      "  -h, --help  show this help message and exit" ]

/-- The help of the counting command. -/
def countHelp : Text :=
  countUsage ++ ofLines
    [ "",
      "positional arguments:",
      "  paths                 Folder to search recursively, a single file, or",
      "                        several files",
      "",
      "options:",
      "  -h, --help            show this help message and exit",
      "  -e EXT, --ext EXT     File extension to include, e.g. .m (repeatable,",
      "                        default .m)",
      "  -i NAME, --ignore NAME",
      "                        File name to skip, e.g. scratch.m (repeatable)",
      "  -o SAVE_DIR, --save-dir SAVE_DIR",
      "                        Folder for lineCount.txt (default: cwd)",
      "  --exclude-dir NAME    Directory name to skip while searching (repeatable)",
      "  --config CONFIG       TOML file with default options",
      "  --json                Also write lineCount.json",
      "  --print               Print the report",
      "  --verbose" ]

end LineTally.CommandLine
