import DesignTokens.Disk

/-!
# Writing rendered files

Rendered files are written below an output directory, which is made if it is not there. It may be
removed first, so that no older file stays in it. What was written before a failure stays.
-/

namespace DesignTokens.Output

/-- Removes the output directory, if it is there. -/
def clear (directory : Path) : DiskWork Unit := do
  if ← Disk.look (·.exists? directory) then Disk.removeTree directory

/-- Writes one file with the directories on the way to it. The result is its path. -/
def writeFile (directory : Path) (file : String × String) : DiskWork Path := do
  let path := directory ++ Path.ofText file.1
  Disk.makeDirectories path.parent
  Disk.write path file.2.toUTF8
  return path

/-- Writes some files below a directory, in order. -/
def write (directory : Path) (clean : Bool) (files : List (String × String)) :
    DiskWork (List Path) := do
  if clean then clear directory
  files.mapM (writeFile directory)

end DesignTokens.Output
