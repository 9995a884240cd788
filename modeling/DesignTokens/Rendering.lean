import DesignTokens.Rendering.Document
import DesignTokens.Rendering.Stylesheet

/-!
# Rendering a library

A library with themes becomes one file for each theme, with the tokens that the theme makes active.
A library without themes becomes one file for each token set. Rendering computes the texts of all
files and writes none of them.
-/

namespace DesignTokens

/-- The formats that files are rendered in. -/
inductive Format where
  | css
  | json
  deriving DecidableEq

/-- Where the custom properties of a theme are declared. -/
inductive ThemeScope where
  /-- For the whole page. -/
  | root
  /-- For the elements that name the theme in an attribute. -/
  | attribute
  deriving DecidableEq

namespace Format

/-- The name of a format, which is also the ending of its files. -/
def name : Format → String
  | .css => "css"
  | .json => "json"

def ofName? (name : String) : Option Format :=
  [Format.css, .json].find? (·.name == name)

/-- The format of a name, or the failure that there is none. -/
def ofName (name : String) : Except Failure Format :=
  match ofName? name with
  | some format => .ok format
  | none => .error (.config (.unknownFormat name) none)

end Format

namespace ThemeScope

def name : ThemeScope → String
  | .root => "root"
  | .attribute => "attribute"

def ofName? (name : String) : Option ThemeScope :=
  [ThemeScope.root, .attribute].find? (·.name == name)

/-- The selector under which a theme's custom properties are declared. -/
def selector (scope : ThemeScope) (theme : Theme) : String :=
  match scope with
  | .root => Stylesheet.rootSelector
  | .attribute => "[data-theme=\"" ++ kebab theme.fileStem ++ "\"]"

end ThemeScope

namespace Rendering

/-- The file of some tokens under a theme. Stylesheets keep references between tokens, documents do
not. -/
def themeText (library : Library) (format : Format) (scope : ThemeScope) (theme : Theme)
    (tokens : List Token) : Inquiry String :=
  match format with
  | .css => do
    let s := library.substitution .customProperties (some theme.name)
    return (← Stylesheet.ofTokens s (scope.selector theme) tokens).text
  | .json => Document.ofTokens (library.substitution .static (some theme.name)) tokens

/-- The file of the tokens of a set, in static form. -/
def setText (library : Library) (format : Format) (tokens : List Token) : Inquiry String :=
  let s := library.substitution .static none
  match format with
  | .css => return (← Stylesheet.ofTokens s Stylesheet.rootSelector tokens).text
  | .json => Document.ofTokens s tokens

/-- The file of a theme with its name. -/
def themeFile (library : Library) (format : Format) (scope : ThemeScope) (theme : Theme) :
    Inquiry (String × String) := do
  let tokens ← Inquiry.activeTokens (some theme.name)
  let text ← themeText library format scope theme tokens
  return (theme.fileStem ++ "." ++ format.name, text)

/-- The file of a set with its name. -/
def setFile (library : Library) (format : Format) (set : TokenSet) :
    Inquiry (String × String) := do
  let text ← setText library format (library.tokensOf set)
  return (set.name ++ "." ++ format.name, text)

/-- The files of a library with their names. Of two files with one name the first gives the place
and the second gives the text. -/
def files (library : Library) (format : Format) (scope : ThemeScope) :
    Inquiry (Entries String) := do
  let written ←
    if library.themes.isEmpty then library.sets.mapM (setFile library format)
    else library.themes.mapM (themeFile library format scope)
  return Entries.ofList written

end Rendering

end DesignTokens
