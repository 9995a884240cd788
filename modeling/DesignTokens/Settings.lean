import DesignTokens.Data.Shown
import DesignTokens.Disk
import DesignTokens.Rendering
import DesignTokens.Text.LineEnd
import DesignTokens.Toml.Reader

/-!
# Settings

Settings say where tokens are read from, and how and where files are written. They come from a
settings file, from the command line, or from defaults. Paths in a settings file are taken from the
directory of that file.

A `Draft` holds settings as they were found. `Draft.check` turns a draft into `Settings`, or names
the first value that is not allowed.
-/

namespace DesignTokens

/-- Where tokens are read from, and how and where files are written. -/
structure Settings where
  /-- The token input. -/
  entry : Path
  /-- The directory that files are written to. -/
  output : Path
  format : Format
  scope : ThemeScope
  /-- Whether the output directory is removed first. -/
  clean : Bool
  /-- Whether a reference may not match several tokens. -/
  strictNames : Bool
  /-- The settings file, if there is one. -/
  file : Option Path
  deriving DecidableEq

/-- Settings before their values are checked. -/
structure Draft where
  entry : Path
  output : Path
  format : Data
  scope : Data
  clean : Data
  strictNames : Data
  file : Option Path

/-- Settings that come after those of a file and replace them. -/
structure Overrides where
  entry : Option Path
  output : Option Path
  format : Option Data
  scope : Option Data
  clean : Option Data
  strictNames : Option Data

/-- The name of the settings file in a directory. -/
def settingsFile : Path := .ofText "figtok.toml"

namespace Draft

/-- The value that one of the names stands for. -/
def word {α : Type} (ofName? : String → Option α) : Data → Option α
  | .text name => ofName? name
  | _ => none

def switch? : Data → Option Bool
  | .boolean b => some b
  | _ => none

/-- The failure that refuses a value. The report shows the value, so there is none of a value that
cannot be written. -/
def refusal (value : Data) (fault : String → ConfigFault) (file : Option Path) : Failure :=
  match value.longInteger? with
  | some n => .badNumber (toString n)
  | none => .config (fault value.plain) file

/-- Checks the values of a draft: the format, the scope, then the switches. -/
def check (draft : Draft) : Except Failure Settings :=
  match word Format.ofName? draft.format with
  | none => .error (refusal draft.format .unknownFormat draft.file)
  | some format =>
    match word ThemeScope.ofName? draft.scope with
    | none => .error (refusal draft.scope .unknownScope draft.file)
    | some scope =>
      match switch? draft.clean, switch? draft.strictNames with
      | some clean, some strictNames =>
        .ok ⟨draft.entry, draft.output, format, scope, clean, strictNames, draft.file⟩
      | _, _ => .error (.config .switchNotBoolean draft.file)

end Draft

namespace Settings

/-- The settings without a settings file. -/
def default : Settings :=
  ⟨.ofText "./tokens", .ofText "./build", .css, .root, true, false, none⟩

/-- Settings as a draft of themselves. -/
def toDraft (settings : Settings) : Draft :=
  ⟨settings.entry, settings.output, .text settings.format.name, .text settings.scope.name,
    .boolean settings.clean, .boolean settings.strictNames, settings.file⟩

/-- Checking changes nothing that is allowed. -/
theorem check_toDraft (settings : Settings) : settings.toDraft.check = .ok settings := by
  obtain ⟨entry, output, format, scope, clean, strictNames, file⟩ := settings
  cases format <;> cases scope <;> rfl

/-- The table of a section. A section that is not there is empty. -/
def sectionOf (document : Entries Data) (name : String) : Except Failure (Entries Data) :=
  match document.get? name with
  | none => .ok []
  | some (.table entries) => .ok entries
  | some _ => .error (.sectionNotATable name)

/-- A path in a section, taken from the directory `base`. -/
def pathIn (entries : Entries Data) (base : Path) (key otherwise : String) :
    Except Failure Path :=
  match entries.get? key with
  | none => .ok (base ++ Path.ofText otherwise)
  | some (.text path) => .ok (base ++ Path.ofText path)
  | some _ => .error (.pathNotText key)

/-- The draft in a settings file. -/
def draftOf (document : Entries Data) (file : Path) : Except Failure Draft := do
  let build ← sectionOf document "build"
  let entry ← pathIn build file.parent "entry" "./tokens"
  let output ← pathIn build file.parent "output" "./build"
  let resolve ← sectionOf document "resolve"
  return {
    entry, output, file
    format := (build.get? "format").getD (.text "css")
    scope := (build.get? "theme_scope").getD (.text "root")
    clean := (build.get? "clean").getD (.boolean true)
    strictNames := (resolve.get? "strict_names").getD (.boolean false) }

/-- The failure of a text that is not read. A text that breaks a rule is reported with its file. -/
def unread (e : Toml.Error) (source : List Char) (file : Path) : Failure :=
  match e.fault with
  | .tooManyDigits digits => .badNumber digits
  | _ => .config (.invalidToml (e.message source)) (some file)

/-- Reads a settings file. -/
def load (disk : Disk) (file : Path) : Except Failure Settings :=
  match disk.read file with
  | .error .nullCharacter => .error (.disk .nullCharacter)
  | .error e => .error (.config (.unreadable e) (some file))
  | .ok bytes =>
    match Text.ofBytes? bytes with
    | none => .error .badEncoding
    | some source =>
      match Toml.read source with
      | .error e => .error (unread e source file)
      | .ok document => do (← draftOf document file).check

/-- Reads the settings file of a directory. Without one the default settings hold. -/
def find (disk : Disk) (directory : Path) : Except Failure Settings := do
  let file := directory ++ settingsFile
  if ← (disk.exists? file).mapError .disk then load disk file else return default

/-- Replaces settings and checks the result. -/
def override (settings : Settings) (overrides : Overrides) : Except Failure Settings :=
  let draft := settings.toDraft
  Draft.check {
    entry := overrides.entry.getD draft.entry
    output := overrides.output.getD draft.output
    format := overrides.format.getD draft.format
    scope := overrides.scope.getD draft.scope
    clean := overrides.clean.getD draft.clean
    strictNames := overrides.strictNames.getD draft.strictNames
    file := draft.file }

end Settings

end DesignTokens
