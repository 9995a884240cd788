import DesignTokens.Data.Shown
import DesignTokens.Failure
import DesignTokens.Noted
import DesignTokens.Theme
import DesignTokens.Warning

/-!
# Themes in a token document

A theme is a table with a name, perhaps a group that comes before the name, and the status of token
sets. A set that the document does not have is passed over with a warning, unless it is disabled
anyway.
-/

namespace DesignTokens.Source

/-- A failure about themes. No file is named for it. -/
def themeFailure (fault : LoadFault) : Failure :=
  .load fault none none

/-- The name of a theme, with its group in front of it. -/
def themeName? (entries : Entries Data) : Option String := do
  let name ← (← entries.get? "name").text?
  match (entries.get? "group").bind (·.text?) with
  | some group => return group ++ "/" ++ name
  | none => return name

/-- The sets that a theme selects. `known` holds the sets that there are, if that is to be
checked. -/
def selectedSets (theme : String) (known : Option (List String)) :
    List (String × Data) → Noted Failure Warning (List (String × Use))
  | [] => pure []
  | (set, status) :: rest =>
    match Use.ofData status with
    | .error () => Noted.fail (themeFailure (.unknownStatus theme set status.shown))
    | .ok none => selectedSets theme known rest
    | .ok (some use) =>
      if known.any (!·.contains set) then do
        Noted.note (.unknownSet theme set)
        selectedSets theme known rest
      else return (set, use) :: (← selectedSets theme known rest)

/-- The theme of a definition, when the themes before it have the names `taken`. -/
def parseTheme (known : Option (List String)) (taken : List String) (definition : Data) :
    Noted Failure Warning Theme :=
  match definition.table? with
  | none => Noted.fail (themeFailure .themeWithoutName)
  | some entries =>
    match themeName? entries with
    | none => Noted.fail (themeFailure .themeWithoutName)
    | some name =>
      if taken.contains name then Noted.fail (themeFailure (.duplicateTheme name))
      else
        match (entries.get? "selectedTokenSets").getD (.table []) with
        | .table selected => return Theme.ofSets name (← selectedSets name known selected)
        | _ => Noted.fail (themeFailure (.selectionNotAnObject name))

/-- The themes of some definitions, when the themes before them have the names `taken`. -/
def parseThemesFrom (known : Option (List String)) (taken : List String) :
    List Data → Noted Failure Warning (List Theme)
  | [] => pure []
  | definition :: rest => do
    let theme ← parseTheme known taken definition
    return theme :: (← parseThemesFrom known (taken ++ [theme.name]) rest)

/-- The themes of a document. -/
def parseThemes (known : Option (List String)) : Data → Noted Failure Warning (List Theme)
  | .list definitions => parseThemesFrom known [] definitions
  | _ => Noted.fail (themeFailure .themesNotAList)

end DesignTokens.Source
