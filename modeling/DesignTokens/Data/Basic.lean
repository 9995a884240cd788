import DesignTokens.Data.Moment
import DesignTokens.Decimal.Layout
import DesignTokens.Entries

/-!
# Data values

Token files and settings files hold the same kind of values. A table keeps its keys in order of
first arrival, and integers and doubles are kept apart, since both show when a value is printed.
-/

namespace DesignTokens

/-- A value of a token file or a settings file. -/
inductive Data where
  | null
  | boolean (b : Bool)
  | integer (n : Int)
  | real (x : Double)
  | text (s : String)
  | list (items : List Data)
  | table (entries : List (String × Data))
  | moment (m : Moment)

namespace Data

instance : Inhabited Data := ⟨.null⟩

/-- The greatest number of decimal digits of an integer that is read or written. Floating-point
numbers have no such bound, and neither have integers in another base. -/
def digitLimit : Nat := 4300

/-- The text of a number. Booleans are no numbers. -/
def numberText? : Data → Option String
  | .integer n => some (toString n)
  | .real x => some (x.text Double.tokenNumbers)
  | _ => none

/-- A text, or a number as it is written. -/
def scalarText? : Data → Option String
  | .text s => some s
  | value => value.numberText?

/-- The entries of a table. -/
def table? : Data → Option (Entries Data)
  | .table entries => some entries
  | _ => none

def text? : Data → Option String
  | .text s => some s
  | _ => none

end Data

end DesignTokens
