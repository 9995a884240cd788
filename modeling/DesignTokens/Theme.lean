import DesignTokens.Data.Issue
import DesignTokens.Text.Blank
import DesignTokens.Text.Split

/-!
# Token sets and themes

A token set is an ordered, named group of tokens. A theme selects token sets: a set is a source, or
enabled, or disabled. A disabled set is the same as a set that is not named, so a theme keeps only
the others, in the order in which they are declared.
-/

namespace DesignTokens

/-- The ids of the tokens of a set, in order. -/
structure TokenSet where
  name : String
  ids : List String
  deriving DecidableEq

/-- How a theme uses a set that it selects. -/
inductive Use where
  | source
  | enabled
  deriving DecidableEq

def Use.word : Use → String
  | .source => "source"
  | .enabled => "enabled"

/-- The word for a set that is not selected. -/
def disabledWord : String := "disabled"

/-- What a theme says about a set: `none` when it disables the set, and a failure when the value is
none of the three words. -/
def Use.ofData : Data → Except Unit (Option Use)
  | .text word =>
    if word == disabledWord then .ok none
    else if word == Use.source.word then .ok (some .source)
    else if word == Use.enabled.word then .ok (some .enabled)
    else .error ()
  | _ => .error ()

/-- A named selection of token sets, in the order of their declaration. -/
structure Theme where
  name : String
  sets : Entries Use
  /-- No set is named twice. -/
  distinct : sets.keys.Nodup
  deriving DecidableEq

namespace Theme

/-- The names of the sets that are used in one way. -/
def setsUsed (theme : Theme) (use : Use) : List String :=
  (theme.sets.filter (·.2 = use)).map (·.1)

def sourceSets (theme : Theme) : List String := theme.setsUsed .source

def enabledSets (theme : Theme) : List String := theme.setsUsed .enabled

/-- The source sets, then the enabled sets. -/
def activeSets (theme : Theme) : List String :=
  theme.sourceSets ++ theme.enabledSets

/-- The name of the theme's file without its ending. The parts between slashes are trimmed and
joined by hyphens. -/
def fileStem (theme : Theme) : String :=
  String.ofList (['-'].intercalate ((theme.name.toList.splitOn '/').map Text.trim))

/-- The sets of a theme from a table of words. Disabled sets are dropped, and the values of the
others are checked. -/
def setsOf (path : List PathStep) : List (String × Data) → Checked (List (String × Use))
  | [] => .ok []
  | (name, value) :: rest =>
    match Use.ofData value, setsOf path rest with
    | .ok none, others => others
    | .ok (some use), others => others.map ((name, use) :: ·)
    | .error (), others => .error (⟨path ++ [.field name], .unknownWord⟩ :: others.issues)

/-- A theme that selects some sets. A set that is named again keeps its place. -/
def ofSets (name : String) (sets : List (String × Use)) : Theme :=
  ⟨name, Entries.ofList sets, Entries.nodup_keys_ofList sets⟩

/-- A theme from the value that names its sets. -/
def ofData (name : String) (sets : Data) : Checked Theme :=
  let path := [PathStep.field "sets"]
  match sets with
  | .table entries => (setsOf path entries).map (ofSets name)
  | _ => .error [⟨path, .notTable⟩]

example : (ofSets "Brand / Dark" []).fileStem = "Brand-Dark" := by decide +kernel

end Theme

end DesignTokens
