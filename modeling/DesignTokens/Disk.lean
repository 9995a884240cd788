import DesignTokens.Disk.Error
import DesignTokens.Disk.Node

/-!
# Disks

A disk is a tree of directories and files with a working directory in it. A path is followed one
component after another, so `a/../b` needs a directory `a`. An operation that fails may have done a
part of its work, and that part stays.
-/

namespace DesignTokens

/-- A tree of directories and files, and the place of the working directory in it. -/
structure Disk where
  top : Node
  working : List String

/-- Work on a disk that can fail half-way. -/
abbrev DiskWork (α : Type) := ExceptT DiskError (StateM Disk) α

namespace Disk

/-- The greatest number of bytes in the name of a file. -/
def nameLimit : Nat := 255

/-- The least number of bytes that is too much for a whole path. -/
def pathLimit : Nat := 4096

/-! ## Following paths -/

/-- Follows the components of a path from the place `here`. The result is the place where the path
leads, and the node there, if any. -/
def follow (top : Node) (here : List String) :
    List String → Except DiskFault (List String × Option Node)
  | [] => .ok (here, top.get? here)
  | name :: rest =>
    match top.get? here with
    | none => .error .notFound
    | some (.file _) => .error .notADirectory
    | some (.directory entries) =>
      if name = ".." then follow top here.dropLast rest
      else if name.utf8ByteSize > nameLimit then .error .nameTooLong
      else if Entries.has entries name || rest.isEmpty then follow top (here ++ [name]) rest
      else .error .notFound

/-- The place where a path starts. -/
def origin (disk : Disk) (path : Path) : List String :=
  match path.root with
  | .working => disk.working
  | .top | .doubleTop => []

/-- Whether a path may be followed at all. -/
def admits (path : Path) : Except DiskError Unit :=
  if path.text.toList.contains '\x00' then .error .nullCharacter
  else if path.text.utf8ByteSize ≥ pathLimit then .error (.fault .nameTooLong path)
  else .ok ()

/-- Where a path leads. -/
def locate (disk : Disk) (path : Path) : Except DiskError (List String × Option Node) := do
  admits path
  (follow disk.top (disk.origin path) path.components).mapError (.fault · path)

/-! ## Looking -/

/-- The node at a path. A path that leads nowhere is no error here. -/
def node? (disk : Disk) (path : Path) : Except DiskError (Option Node) :=
  match disk.locate path with
  | .ok (_, node) => .ok node
  | .error .nullCharacter | .error (.fault .notFound _) | .error (.fault .notADirectory _) =>
    .ok none
  | .error e => .error e

/-- Whether anything is at a path. -/
def exists? (disk : Disk) (path : Path) : Except DiskError Bool :=
  (disk.node? path).map (·.isSome)

/-- Whether a directory is at a path. -/
def isDirectory? (disk : Disk) (path : Path) : Except DiskError Bool :=
  (disk.node? path).map (·.any (·.isDirectory))

/-- The bytes of the file at a path. -/
def read (disk : Disk) (path : Path) : Except DiskError ByteArray :=
  match disk.locate path with
  | .ok (_, some (.file bytes)) => .ok bytes
  | .ok (_, some (.directory _)) => .error (.fault .isADirectory path)
  | .ok (_, none) => .error (.fault .notFound path)
  | .error e => .error e

/-- The places of all files and directories below a directory. Each directory is listed by its path,
which may be too long even though the path that was asked for is not. -/
def placesBelow (disk : Disk) (path : Path) : Except DiskError (List (List String)) :=
  match disk.locate path with
  | .ok (_, some node) => do
    node.directories.forM fun place => admits (path ++ ⟨.working, place⟩)
    return node.all.map (·.1)
  | _ => .ok []

/-! ## Changing -/

/-- Changes the tree of a disk. -/
def change (f : Node → Node) : DiskWork Unit :=
  modify fun disk => { disk with top := f disk.top }

/-- A look at the disk as it is now. -/
def look {α : Type} (f : Disk → Except DiskError α) : DiskWork α := do
  MonadExcept.ofExcept (f (← get))

/-- Makes a directory where nothing is. A directory that is there stays as it is. -/
def makeDirectory (path : Path) : DiskWork Unit := do
  match ← look (·.locate path) with
  | (_, some (.directory _)) => pure ()
  | (_, some (.file _)) => throw (.fault .exists path)
  | (place, none) => change (·.put .empty place)

/-- Makes a directory and all directories on the way to it. -/
def makeDirectories (path : Path) : DiskWork Unit := do
  MonadExcept.ofExcept (admits path)
  path.way.forM makeDirectory

/-- Writes a file. A file that is there is written over. -/
def write (path : Path) (bytes : ByteArray) : DiskWork Unit := do
  match ← look (·.locate path) with
  | (_, some (.directory _)) => throw (.fault .isADirectory path)
  | (place, _) => change (·.put (.file bytes) place)

/-- Removes a directory with all that is in it. The working directory and the parent of a directory
lose what is in them, but cannot be removed by these names. -/
def removeTree (path : Path) : DiskWork Unit := do
  match ← look (·.locate path) with
  | (_, none) => throw (.fault .notFound path)
  | (_, some (.file _)) => throw (.fault .notADirectory path)
  | (place, some (.directory _)) =>
    match path.components.getLast? with
    | none =>
      change (·.put .empty place)
      throw (.fault .invalid path)
    | some ".." =>
      change (·.put .empty place)
      throw (.fault .notEmpty path)
    | some _ => change (·.erase place)

end Disk

end DesignTokens
