import DesignTokens.Data.Basic
import DesignTokens.Text.Quoted

/-!
# Writing JSON

`Json.write` lays a value out over several lines, two blanks for each level. An empty list and an
empty table stay on one line. Strings hold only visible ASCII characters and blanks: every other
character is escaped by its UTF-16 units.
-/

namespace DesignTokens.Json

open DesignTokens.Text

/-- Numbers are laid out as in token values. The values that are no finite numbers have names of
their own. -/
def numbers : Double.Layout :=
  { Double.tokenNumbers with nanWord := "NaN", infinityWord := "Infinity" }

/-- A UTF-16 unit as an escape. -/
def escapedUnit (unit : Nat) : List Char :=
  '\\' :: 'u' :: hexPadded 4 unit

/-- A character inside a string. -/
def writtenChar (c : Char) : List Char :=
  if c = '"' then ['\\', '"']
  else if c = '\\' then ['\\', '\\']
  else if c = '\n' then ['\\', 'n']
  else if c = '\r' then ['\\', 'r']
  else if c = '\t' then ['\\', 't']
  else if c = '\x0c' then ['\\', 'f']
  else if c = '\x08' then ['\\', 'b']
  else if 0x20 ≤ c.toNat ∧ c.toNat < 0x7F then [c]
  else if c.toNat < 0x10000 then escapedUnit c.toNat
  else
    let above := c.toNat - 0x10000
    escapedUnit (0xD800 + above / 0x400) ++ escapedUnit (0xDC00 + above % 0x400)

/-- A string with its quotes. -/
def writeString (text : String) : String :=
  "\"" ++ String.ofList (text.toList.flatMap writtenChar) ++ "\""

/-- The blanks in front of a line. -/
def indent (depth : Nat) : String :=
  String.ofList (List.replicate (2 * depth) ' ')

/-- The members of a list or a table between its brackets, each on a line of its own. -/
def writeBlock (opening closing : String) (depth : Nat) : List String → String
  | [] => opening ++ closing
  | members =>
    let line := "\n" ++ indent (depth + 1)
    opening ++ line ++ ("," ++ line).intercalate members ++ "\n" ++ indent depth ++ closing

mutual
/-- A value, `depth` levels inside the document. -/
def writeAt (depth : Nat) : Data → String
  | .null => "null"
  | .boolean b => if b then "true" else "false"
  | .integer n => toString n
  | .real x => x.text numbers
  | .text s => writeString s
  | .list items => writeBlock "[" "]" depth (writeItems (depth + 1) items)
  | .table entries => writeBlock "\x7b" "\x7d" depth (writeEntries (depth + 1) entries)
  | .moment m => writeString m.plain

def writeItems (depth : Nat) : List Data → List String
  | [] => []
  | item :: rest => writeAt depth item :: writeItems depth rest

def writeEntries (depth : Nat) : List (String × Data) → List String
  | [] => []
  | (key, value) :: rest =>
    (writeString key ++ ": " ++ writeAt depth value) :: writeEntries depth rest
end

/-- A value as a document. -/
def write (value : Data) : String :=
  writeAt 0 value

example : write (.table [("a", .list []), ("b", .integer 1)]) =
    "\x7b\n  \"a\": [],\n  \"b\": 1\n\x7d" := by decide +kernel

end DesignTokens.Json
