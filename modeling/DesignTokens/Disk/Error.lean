import DesignTokens.Disk.Path
import DesignTokens.Text.Quoted

/-!
# Errors of a disk

What keeps a disk from doing as it is told, and the path it was told.
-/

namespace DesignTokens

/-- Why an operation on a disk fails. -/
inductive DiskFault where
  | notFound
  | exists
  | notADirectory
  | isADirectory
  | invalid
  | nameTooLong
  | notEmpty
  deriving DecidableEq

/-- The number of a fault in reports. -/
def DiskFault.number : DiskFault → Nat
  | .notFound => 2
  | .exists => 17
  | .notADirectory => 20
  | .isADirectory => 21
  | .invalid => 22
  | .nameTooLong => 36
  | .notEmpty => 39

def DiskFault.description : DiskFault → String
  | .notFound => "No such file or directory"
  | .exists => "File exists"
  | .notADirectory => "Not a directory"
  | .isADirectory => "Is a directory"
  | .invalid => "Invalid argument"
  | .nameTooLong => "File name too long"
  | .notEmpty => "Directory not empty"

/-- Why an operation on a path fails. -/
inductive DiskError where
  | fault (cause : DiskFault) (path : Path)
  /-- The path holds the character that no path may hold. -/
  | nullCharacter
  deriving DecidableEq

def DiskError.text : DiskError → String
  | .fault cause path =>
    s!"[Errno {cause.number}] {cause.description}: {Text.quoted path.text}"
  | .nullCharacter => "embedded null byte"

end DesignTokens
