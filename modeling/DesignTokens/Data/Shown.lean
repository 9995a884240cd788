import DesignTokens.Data.Basic
import DesignTokens.Text.Quoted

/-!
# Data values in messages

A message names an offending value. `Data.shown` is the value with quotes and brackets, as it also
stands inside a list. `Data.plain` is the value by itself: a text is then given without quotes. An
integer of more digits than `Data.digitLimit` cannot be written (`Data.longInteger?`).
-/

namespace DesignTokens.Data

mutual
/-- A value with quotes and brackets. -/
def shown : Data → String
  | .null => "None"
  | .boolean b => if b then "True" else "False"
  | .integer n => toString n
  | .real x => x.text Double.tokenNumbers
  | .text s => Text.quoted s
  | .list items => "[" ++ ", ".intercalate (shownItems items) ++ "]"
  | .table entries => "\x7b" ++ ", ".intercalate (shownEntries entries) ++ "\x7d"
  | .moment m => m.shown

def shownItems : List Data → List String
  | [] => []
  | item :: rest => shown item :: shownItems rest

def shownEntries : List (String × Data) → List String
  | [] => []
  | (key, value) :: rest => (Text.quoted key ++ ": " ++ shown value) :: shownEntries rest
end

mutual
/-- The first integer in a value that has too many digits to be written. -/
def longInteger? : Data → Option Int
  | .integer n => if Nat.pow 10 digitLimit ≤ n.natAbs then some n else none
  | .list items => longIntegerIn? items
  | .table entries => longIntegerUnder? entries
  | _ => none

def longIntegerIn? : List Data → Option Int
  | [] => none
  | item :: rest => (longInteger? item).or (longIntegerIn? rest)

def longIntegerUnder? : List (String × Data) → Option Int
  | [] => none
  | (_, value) :: rest => (longInteger? value).or (longIntegerUnder? rest)
end

/-- A value by itself. -/
def plain : Data → String
  | .text s => s
  | .moment m => m.plain
  | value => value.shown

end DesignTokens.Data
