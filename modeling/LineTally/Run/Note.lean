import LineTally.Text.Basic

namespace LineTally

/-!
# Notes

What a run reports about itself besides its result: notes of a level, each on
the channel of the part of the run that it comes from.
-/

/-- How important a note is. -/
inductive Level where
  | debug
  | info
  | warning
  | error
  deriving Repr, DecidableEq

namespace Level

/-- The name of a level. -/
def name :
    Level → Text
  | .debug => "DEBUG".toList
  | .info => "INFO".toList
  | .warning => "WARNING".toList
  | .error => "ERROR".toList

end Level

/-- The part of a run that a note comes from. -/
inductive Channel where
  | settings
  | disk
  | selection
  | counting
  | report
  deriving Repr, DecidableEq

namespace Channel

/-- The name of a channel. -/
def name :
    Channel → Text
  | .settings => "linecount.config".toList
  | .disk => "linecount.fs".toList
  | .selection => "linecount.scanner".toList
  | .counting => "linecount.counter".toList
  | .report => "linecount.report".toList

end Channel

/-- A note. -/
structure Note where
  level : Level
  channel : Channel
  text : Text
  deriving Repr, DecidableEq

namespace Note

/-- A note as one line. -/
def line
    (note : Note) :
    Text :=
  note.level.name ++ ' ' :: note.channel.name ++ ": ".toList ++ note.text

/-- Whether a note is shown although details are not asked for. -/
def isShown
    (note : Note) :
    Bool :=
  note.level ≠ .debug

end Note

end LineTally
