/-!
# Splitting at a character

Paths and dotted names are lists of parts with a separator between them. Two separators in a row,
and a separator at an end, leave an empty part.
-/

namespace DesignTokens.Text

/-- The parts of a text between the separators. -/
def parts (separator : Char) (text : String) : List String :=
  (text.toList.splitOn separator).map String.ofList

end DesignTokens.Text
