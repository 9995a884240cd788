import DesignTokens.Disk
import DesignTokens.Json.Reader
import DesignTokens.Source.Themes
import DesignTokens.Source.Tokens
import DesignTokens.Text.LineEnd

/-!
# Token input

Tokens come in one document that holds every token set under its name, or in a directory with one
document for each set. Both may hold the order of the sets, and both may hold themes: the document
under keys that start with `$`, the directory in files of these names.

`Source.load` reads either of them and builds the library.
-/

namespace DesignTokens.Source

/-- The two ways in which tokens come. -/
inductive Layout where
  | document
  | directory
  deriving DecidableEq

/-- How tokens come at a path, by the ending of the path. -/
def layoutOf (path : Path) : Except Failure Layout :=
  if path.suffix = "" then .ok .directory
  else if path.suffix = ".json" then .ok .document
  else .error (.load (.unsupportedExtension path.suffix) (some path) none)

/-- What was read before anything in it is built. -/
structure Raw where
  sets : List RawSet
  themes : Data

/-- The failure of a text that is not read. A text that breaks a rule is reported with its file. -/
def unread (e : Json.Error) (source : List Char) (path : Path) : Failure :=
  match e.fault with
  | .tooManyDigits digits => .badNumber digits
  | _ => .load (.invalidJson (e.message source)) (some path) none

/-- The document in a file. -/
def readDocument (disk : Disk) (path : Path) : Except Failure Data :=
  match disk.read path with
  | .error .nullCharacter => .error (.disk .nullCharacter)
  | .error e => .error (.load (.unreadable e) (some path) none)
  | .ok bytes =>
    match Text.ofBytes? bytes with
    | none => .error .badEncoding
    | some source =>
      match Json.read source with
      | .ok data => .ok data
      | .error e => .error (unread e source path)

/-- The document in a file, if there is such a file. -/
def readIfThere (disk : Disk) (path : Path) : Except Failure (Option Data) := do
  if ← (disk.exists? path).mapError .disk then return some (← readDocument disk path)
  else return none

/-- The order of the sets that the metadata `metadata` give, or the order `fallback` without
metadata. -/
def setOrder (metadata : Option Data) (fallback : List String) (file : Path) :
    Except Failure (List String) :=
  match metadata with
  | none | some .null => .ok fallback
  | some metadata =>
    match (metadata.table?.bind (·.get? "tokenSetOrder")) with
    | some (.list slugs) =>
      match slugs.mapM (·.text?) with
      | some slugs => .ok slugs
      | none => .error (.load .orderNotNames (some file) none)
    | _ => .error (.load .orderNotNames (some file) none)

/-! ## One document -/

/-- The set of a name in a document. -/
def setInDocument (entries : Entries Data) (file : Path) (slug : String) :
    Except Failure RawSet :=
  match entries.get? slug with
  | some data => .ok ⟨slug, some file, data⟩
  | none => .error (.load (.setNotDefined slug) (some file) none)

/-- Reads one document. -/
def readSingle (disk : Disk) (path : Path) : Except Failure Raw := do
  match (← readDocument disk path).table? with
  | none => .error (.load .documentNotAnObject (some path) none)
  | some entries =>
    let fallback := entries.keys.filter (!isOwnKey ·)
    let order ← setOrder (entries.get? "$metadata") fallback path
    let sets ← order.mapM (setInDocument entries path)
    return ⟨Roster.of (·.slug) sets, (entries.get? "$themes").getD (.list [])⟩

/-! ## A directory -/

def metadataFile : Path := .ofText "$metadata.json"

def themesFile : Path := .ofText "$themes.json"

/-- The file of a set in a directory. -/
def setFile (directory : Path) (slug : String) : Path :=
  directory ++ Path.ofText (slug ++ ".json")

/-- The slug of a file below a directory: its place without the ending, with slashes. A file has one
when its name ends in `.json` and no part of its slug starts with `$`. -/
def slugOf? (place : List String) : Option String :=
  match place.getLast? with
  | none => none
  | some name =>
    if ['.', 'j', 's', 'o', 'n'].isSuffixOf name.toList then
      let parts := place.dropLast ++ [(Path.splitSuffix name).1]
      if parts.any isOwnKey then none else some ("/".intercalate parts)
    else none

/-- The slugs of the files at some places, sorted by code points. -/
def slugsOf (places : List (List String)) : List String :=
  (places.filterMap slugOf?).mergeSort (· ≤ ·)

/-- The slugs of all files below a directory. -/
def discover (disk : Disk) (directory : Path) : Except Failure (List String) :=
  ((disk.placesBelow directory).map slugsOf).mapError .disk

/-- Reads the set of a slug from its file. -/
def setInDirectory (disk : Disk) (directory : Path) (slug : String) : Except Failure RawSet := do
  let file := setFile directory slug
  match ← readIfThere disk file with
  | some data => .ok ⟨slug, some file, data⟩
  | none => .error (.load (.setFileNotFound slug) (some file) none)

/-- Reads a directory. -/
def readDirectory (disk : Disk) (path : Path) : Except Failure Raw := do
  if ← (disk.isDirectory? path).mapError .disk then
    let metadata ← readIfThere disk (path ++ metadataFile)
    let order ← setOrder metadata (← discover disk path) (path ++ metadataFile)
    let themes ← readIfThere disk (path ++ themesFile)
    let sets ← order.mapM (setInDirectory disk path)
    return ⟨Roster.of (·.slug) sets, themes.getD (.list [])⟩
  else .error (.load (.inputNotADirectory path) (some path) none)

/-! ## Loading -/

/-- Reads token input. -/
def read (disk : Disk) (entry : Path) : Except Failure Raw := do
  let layout ← layoutOf entry
  if ← (disk.exists? entry).mapError .disk then
    match layout with
    | .document => readSingle disk entry
    | .directory => readDirectory disk entry
  else .error (.load (.noInput entry) none none)

/-- Builds the library of what was read. -/
def build (raw : Raw) (strictNames : Bool) : Noted Failure Warning Library := do
  let parsed ← Noted.lift (parseTokens raw.sets)
  let themes ← parseThemes (some (parsed.sets.map (·.name))) raw.themes
  Noted.lift (Library.build parsed.tokens parsed.sets themes strictNames)

/-- The library of the token input at a path. -/
def load (disk : Disk) (entry : Path) (strictNames : Bool) : Noted Failure Warning Library := do
  let raw ← Noted.lift (read disk entry)
  build raw strictNames

end DesignTokens.Source
