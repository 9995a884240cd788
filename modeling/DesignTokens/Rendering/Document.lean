import DesignTokens.Json.Writer
import DesignTokens.Substitution

/-!
# Nested documents

A document holds the static value of every token at the place that the token's name says: the parts
of `color.brand.primary` are three nested tables. A bundle of properties is a table at its place.

Tokens are placed one after another. Tables of several tokens are merged. Where a text meets
anything that is there already, or anything meets a text, the later value wins and a warning names
the place.
-/

namespace DesignTokens

/-- A value inside one table for each step of a path, outermost first. -/
def Data.nest (path : List String) (value : Data) : Data :=
  path.foldr (fun key inner => .table [(key, inner)]) value

/-- What a token puts at its place. -/
inductive Leaf where
  | text (s : String)
  | properties (entries : Entries String)
  deriving DecidableEq

namespace Leaf

def data : Leaf → Data
  | .text s => .text s
  | .properties entries => .table (entries.map fun (key, value) => (key, .text value))

/-- What a token puts at its place. -/
def ofToken (s : Substitution) (token : Token) : Inquiry Leaf :=
  match token.value with
  | .bundle bundle => return .properties (← s.properties token bundle)
  | _ => return .text (← s.cssValue token)

end Leaf

namespace Document

/-- A table, and the places where a value was lost in making it. -/
abbrev Placed := Entries Data × List Warning

/-- Writes a value over what is there, if anything is. -/
def overwrite (path : List String) (key : String) (value : Data) (table : Entries Data) : Placed :=
  (table.put key value, if table.has key then [.keyDefinedTwice (path ++ [key])] else [])

/-- Adds texts to the table at `path`. -/
def addTexts (path : List String) (texts : List (String × String)) (table : Entries Data) :
    Placed :=
  texts.foldl
    (fun (table, warnings) (key, value) =>
      let (table, more) := overwrite path key (.text value) table
      (table, warnings ++ more))
    (table, [])

/-- Puts a leaf into the table at `path`, `key` and the keys after it further inside. -/
def place (path : List String) (leaf : Leaf) (table : Entries Data) (key : String) :
    List String → Placed
  | [] =>
    match table.get? key, leaf with
    | some (.table inner), .properties texts =>
      let (inner, warnings) := addTexts (path ++ [key]) texts inner
      (table.put key (.table inner), warnings)
    | _, leaf => overwrite path key leaf.data table
  | next :: rest =>
    match table.get? key with
    | some (.table inner) =>
      let (inner, warnings) := place (path ++ [key]) leaf inner next rest
      (table.put key (.table inner), warnings)
    | _ => overwrite path key (Data.nest (next :: rest) leaf.data) table

/-- Puts a leaf at the place that a token's name says. -/
def placeNamed (table : Entries Data) (name : String) (leaf : Leaf) : Placed :=
  match Text.parts '.' name with
  | [] => (table, [])
  | key :: rest => place [] leaf table key rest

/-- Leaves some warnings, first to last. -/
def leaveAll : List Warning → Inquiry Unit
  | [] => pure ()
  | warning :: rest => .warn warning (leaveAll rest)

/-- Adds tokens to a table. -/
def addTokens (s : Substitution) (table : Entries Data) : List Token → Inquiry (Entries Data)
  | [] => pure table
  | token :: rest => do
    let leaf ← Leaf.ofToken s token
    let (table, warnings) := placeNamed table token.name leaf
    leaveAll warnings
    addTokens s table rest

/-- The text of the document of some tokens. -/
def ofTokens (s : Substitution) (tokens : List Token) : Inquiry String := do
  let table ← addTokens s [] tokens
  return Json.write (.table table) ++ "\n"

end Document

end DesignTokens
