import LineTally.Number.Decimal
import LineTally.Text.Quoted

namespace LineTally

/-!
# Disk faults

Why a disk could not do what it was asked to do with a path.
-/

/-- A reason for which the disk refuses a path. -/
inductive DiskError where
  /-- Nothing is there. -/
  | missing
  /-- The path leads through something that is no folder. -/
  | notFolder
  /-- A folder is in the place of a file. -/
  | isFolder
  /-- A name on the way, or the path as a whole, is too long. -/
  | tooLong
  /-- The path leads through too many links. -/
  | tooManyLinks
  /-- The file may not be opened. -/
  | denied
  /-- The file was opened, but what it holds cannot be had. -/
  | broken
  deriving Repr, DecidableEq

namespace DiskError

/-- The number of the reason. -/
def number :
    DiskError → Nat
  | .missing => 2
  | .notFolder => 20
  | .isFolder => 21
  | .tooLong => 36
  | .tooManyLinks => 40
  | .denied => 13
  | .broken => 5

/-- The reason in words. -/
def words :
    DiskError → Text
  | .missing => "No such file or directory".toList
  | .notFolder => "Not a directory".toList
  | .isFolder => "Is a directory".toList
  | .tooLong => "File name too long".toList
  | .tooManyLinks => "Too many levels of symbolic links".toList
  | .denied => "Permission denied".toList
  | .broken => "Input/output error".toList

/-- Whether the reason shows only after a path has been opened, so that no message names it. -/
def isLate :
    DiskError → Bool
  | .broken => true
  | _ => false

end DiskError

/-- A disk fault: the disk refuses a path, or the path holds a NUL and never gets there. -/
inductive DiskFault where
  | refused (error : DiskError) (path : Text)
  | nulInPath
  deriving Repr, DecidableEq

namespace DiskFault

/-- What the message says. -/
def message :
    DiskFault → Text
  | .refused error path =>
      "[Errno ".toList ++ Decimal.ofNat error.number ++ "] ".toList ++ error.words
        ++ if error.isLate then [] else ": ".toList ++ path.quoted
  | .nulInPath => "embedded null byte".toList

end DiskFault

end LineTally
