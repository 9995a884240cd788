import DesignTokens.Data.Basic
import DesignTokens.Text.Quoted

/-!
# Errors in TOML documents

A cause, and how much of the document was left where it was found.
-/

namespace DesignTokens.Toml

/-- The keys from the top of a document to a value. -/
abbrev KeyPath := List String

/-- Why a text is not read as a TOML document. -/
inductive Fault where
  | invalidStatement
  | expectedLineEnd
  | expectedEquals
  | expectedText (text : String)
  | foundCharacter (c : Char)
  | invalidKey
  | unclosedHeader
  | unclosedListHeader
  | declaredTwice (key : KeyPath)
  | redefined (key : KeyPath)
  | immutable (key : KeyPath)
  | overwrite
  | duplicateKey (key : String)
  | unclosedArray
  | unclosedTable
  | unterminatedString
  | illegalCharacter (c : Char)
  | badEscape
  | badHexadecimal
  | notACharacter
  | invalidDate
  | invalidValue
  /-- An integer has more decimal digits than are read. -/
  | tooManyDigits (digits : String)
  deriving DecidableEq

/-- Whether the text breaks a rule of TOML. -/
def Fault.isMalformed : Fault → Bool
  | .tooManyDigits _ => false
  | _ => true

/-- A key as messages show it: its parts in parentheses, with a comma behind a single part. -/
def shownKey (key : KeyPath) : String :=
  match key with
  | [part] => "(" ++ Text.quoted part ++ ",)"
  | parts => "(" ++ ", ".intercalate (parts.map Text.quoted) ++ ")"

/-- The wording of a cause. -/
def Fault.message : Fault → String
  | .invalidStatement => "Invalid statement"
  | .expectedLineEnd => "Expected newline or end of document after a statement"
  | .expectedEquals => "Expected '=' after a key in a key/value pair"
  | .expectedText text => "Expected " ++ Text.quoted text
  | .foundCharacter c => "Found invalid character " ++ Text.quoted (String.singleton c)
  | .invalidKey => "Invalid initial character for a key part"
  | .unclosedHeader => "Expected ']' at the end of a table declaration"
  | .unclosedListHeader => "Expected ']]' at the end of an array declaration"
  | .declaredTwice key => s!"Cannot declare {shownKey key} twice"
  | .redefined key => s!"Cannot redefine namespace {shownKey key}"
  | .immutable key => s!"Cannot mutate immutable namespace {shownKey key}"
  | .overwrite => "Cannot overwrite a value"
  | .duplicateKey key => "Duplicate inline table key " ++ Text.quoted key
  | .unclosedArray => "Unclosed array"
  | .unclosedTable => "Unclosed inline table"
  | .unterminatedString => "Unterminated string"
  | .illegalCharacter c => "Illegal character " ++ Text.quoted (String.singleton c)
  | .badEscape => "Unescaped '\\' in a string"
  | .badHexadecimal => "Invalid hex value"
  | .notACharacter => "Escaped character is not a Unicode scalar value"
  | .invalidDate => "Invalid date or datetime"
  | .invalidValue => "Invalid value"
  | .tooManyDigits digits =>
    s!"Exceeds the limit ({Data.digitLimit} digits) for integer string conversion: " ++
      s!"value has {digits.length} digits"

/-- A cause and the number of characters that were left at its place. -/
structure Error where
  fault : Fault
  left : Nat

/-- Cause, line and column in the text that was read. -/
def Error.message (e : Error) (source : List Char) : String :=
  if e.left = 0 then e.fault.message ++ " (at end of document)"
  else
    let before := source.take (source.length - e.left)
    let line := before.count '\n' + 1
    let column := (before.reverse.takeWhile (· != '\n')).length + 1
    e.fault.message ++ s!" (at line {line}, column {column})"

/-- An error at the front of what is left. -/
def fault {α : Type} (cause : Fault) (left : List Char) : Except Error α :=
  .error ⟨cause, left.length⟩

end DesignTokens.Toml
