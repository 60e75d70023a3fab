import LineTally.Charset.Decode
import LineTally.Run.Sample
import LineTally.Settings.Complaint
import LineTally.Tally.Statistics
import LineTally.Value.Basic

namespace LineTally

/-!
# Faults

Every way in which a part of the program can fail, with the text that says so.
The first three are the program's own; the others come from the parts that it
is built from and are passed on.
-/

/-- Why a file that is there could not be read. -/
inductive ReadCause where
  | disk (fault : DiskFault)
  | decode (fault : DecodeFault)
  deriving Repr, DecidableEq

namespace ReadCause

/-- What the message says. -/
def message :
    ReadCause → Text
  | .disk fault => fault.message
  | .decode fault => fault.message

end ReadCause

/-- Why something failed. -/
inductive Fault where
  /-- Arguments or settings are rejected. -/
  | rejected (complaint : Complaint)
  /-- A path does not lead to a file. -/
  | notFile (path : Text)
  /-- A file cannot be read. -/
  | unreadable (path : Text) (cause : ReadCause)
  /-- A report cannot be written. -/
  | unwritable (path : Text) (cause : DiskFault)
  | disk (fault : DiskFault)
  | decode (fault : DecodeFault)
  | kind (fault : KindFault)
  | number (fault : NumberFault)
  /-- Values in a document lie too deep in one another. -/
  | tooDeep
  | sample (fault : SampleFault)
  /-- A value with this notation names no scan state. -/
  | unknownState (shown : Text)
  /-- A path has no name whose suffix could be replaced. -/
  | unnamed (path : Text)
  deriving Repr, DecidableEq

namespace Fault

/-- What the message says. -/
def message :
    Fault → Text
  | .rejected complaint => complaint.message
  | .notFile path => "Path is not a file: ".toList ++ path
  | .unreadable path cause =>
      "Failed to read file ".toList ++ path ++ ": ".toList ++ cause.message
  | .unwritable path cause =>
      "Failed to write report ".toList ++ path ++ ": ".toList ++ cause.message
  | .disk fault => fault.message
  | .decode fault => fault.message
  | .kind fault => fault.message
  | .number fault => fault.message
  | .tooDeep => "maximum recursion depth exceeded".toList
  | .sample fault => fault.message
  | .unknownState shown => shown ++ " is not a valid ScanState".toList
  | .unnamed path => "PosixPath(".toList ++ path.quoted ++ ") has an empty name".toList

/-- Whether a fault is one of the program's own, which it reports and ends with. -/
def isOwn :
    Fault → Bool
  | .rejected _ | .notFile _ | .unreadable _ _ | .unwritable _ _ => true
  | _ => false

end Fault

end LineTally
