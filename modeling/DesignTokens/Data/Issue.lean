import DesignTokens.Data.Basic

/-!
# Values of the wrong shape

A token or a theme is built from a data value of a given shape. Where the value has another shape,
every offending place is reported, in order. `Checked α` is a value that was built or the issues
that were found instead.
-/

namespace DesignTokens

/-- A step into a value. -/
inductive PathStep where
  | field (name : String)
  | index (i : Nat)
  deriving DecidableEq

/-- What is wrong in one place. -/
inductive Defect where
  | notText
  | notList
  | notTable
  /-- A layer of a shadow that is no table. -/
  | notLayer
  | missing
  /-- A text that is none of the words allowed there, or no text at all. -/
  | unknownWord
  deriving DecidableEq

/-- An offending place and what is wrong there. -/
structure Issue where
  path : List PathStep
  defect : Defect
  deriving DecidableEq

def PathStep.text : PathStep → String
  | .field name => name
  | .index i => toString i

def Defect.message : Defect → String
  | .notText => "expected a text or a number"
  | .notList => "expected a list"
  | .notTable => "expected a table"
  | .notLayer => "expected a table with the fields of a shadow layer"
  | .missing => "required field is missing"
  | .unknownWord => "unknown word"

def Issue.text (issue : Issue) : String :=
  ".".intercalate (issue.path.map (·.text)) ++ ": " ++ issue.defect.message

/-- A value that was built, or every issue found. -/
abbrev Checked (α : Type) := Except (List Issue) α

namespace Checked

variable {α β : Type}

/-- The issues found. -/
def issues : Checked α → List Issue
  | .ok _ => []
  | .error found => found

/-- All values, or the issues of all of them. -/
def all : List (Checked α) → Checked (List α)
  | [] => .ok []
  | first :: rest =>
    match first, all rest with
    | .ok a, .ok others => .ok (a :: others)
    | first, others => .error (issues first ++ issues others)

end Checked

/-- A text, or a number as it is written. -/
def Data.asText (path : List PathStep) (value : Data) : Checked String :=
  match value.scalarText? with
  | some written => .ok written
  | none => .error [⟨path, .notText⟩]

end DesignTokens
