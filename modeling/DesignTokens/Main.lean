import DesignTokens.Command

/-!
# The program

`main` runs the command of its command line. The command runs on a copy of the working directory and
of the paths that the command line names. Afterwards the changes of the copy are made on the disk
itself.
-/

namespace DesignTokens.Main

/-- The file or the directory of an entry. -/
partial def snapshot (entry : IO.FS.DirEntry) : IO Node := do
  if ← entry.path.isDir then
    let children ← (← entry.path.readDir).toList.mapM fun child => do
      return (child.fileName, ← snapshot child)
    return .directory children
  else return .file (← IO.FS.readBinFile entry.path)

/-- The paths outside the working directory that a command may use. -/
def named : Command → List Path
  | .build overrides settings =>
    overrides.entry.toList ++ overrides.output.toList ++ (settings.map Path.parent).toList
  | .resolve _ entry _ _ settings => entry.toList ++ (settings.map Path.parent).toList
  | .calc _ => []

/-- Copies what is at a place into a tree, unless the place is there already. -/
def copy (top : Node) (place : List String) : IO Node := do
  let text := "/" ++ "/".intercalate place
  let entry : IO.FS.DirEntry := ⟨← IO.currentDir, text⟩
  if (top.get? place).isNone && (← entry.path.pathExists) then
    return top.put (← snapshot entry) place
  else return top

/-- The disk that a command sees. -/
def view (command : Command) : IO Disk := do
  let working := (Path.ofText (← IO.currentDir).toString).components
  let top ← copy .empty working
  let places := (named command).map (Path.place working)
  return ⟨← places.foldlM copy top, working⟩

/-- Removes a node at a path. -/
def remove (path : String) : Node → IO Unit
  | .directory _ => IO.FS.removeDirAll path
  | .file _ => IO.FS.removeFile path

/-- Makes the change from one node to another at a path. -/
partial def realize (path : String) : Option Node → Option Node → IO Unit
  | none, none => pure ()
  | some old, none => remove path old
  | some (.file old), some (.file new) => do
    if old != new then IO.FS.writeBinFile path new
  | some (.directory old), some (.directory new) =>
    for name in (Entries.keys old ++ Entries.keys new).eraseDups do
      realize (path ++ "/" ++ name) (Entries.get? old name) (Entries.get? new name)
  | some old, new => do
    remove path old
    realize path none new
  | none, some (.file new) => IO.FS.writeBinFile path new
  | none, some (.directory new) => do
    IO.FS.createDir path
    for (name, node) in new do
      realize (path ++ "/" ++ name) none node

/-- Runs a command line. -/
def run (line : List String) : IO UInt32 := do
  match Command.ofArguments? line with
  | none =>
    IO.eprintln "Usage: figtok build|resolve|calc [OPTIONS] [ARGUMENT]"
    return 2
  | some command =>
    let disk ← view command
    let outcome := command.run disk
    for warning in outcome.warnings do IO.eprintln ("WARNING " ++ warning.text)
    IO.print outcome.output
    if outcome.crash.isSome then IO.eprintln "The command was stopped by an unexpected failure."
    realize "" disk.top outcome.disk.top
    return outcome.status.toUInt32

end DesignTokens.Main

/-- Runs the command of the command line. -/
def main (line : List String) : IO UInt32 :=
  DesignTokens.Main.run line
