import DesignTokens.Data.Basic
import DesignTokens.Toml.Error

/-!
# Tables within tables in TOML

A dotted key leads from table to table, and tables that are missing on the way are made. Behind a
list the way goes on in its last table. `Marks` remembers which tables may not be opened again.
-/

namespace DesignTokens.Toml

/-- Whether the way through a document may go through lists. -/
inductive Way where
  | throughLists
  | tablesOnly
  deriving DecidableEq

/-- A list with another last item. -/
def replaceLast (items : List Data) (item : Data) : List Data :=
  items.dropLast ++ [item]

/-- Changes the table behind a key. Nothing is changed when something other than a table is on the
way, or when the change itself is refused. -/
def changeTable (way : Way) (change : Entries Data → Option (Entries Data))
    (table : Entries Data) : KeyPath → Option (Entries Data)
  | [] => change table
  | key :: rest => do
    match (table.get? key).getD (.table []) with
    | .table inner =>
      let inner ← changeTable way change inner rest
      return table.put key (.table inner)
    | .list items =>
      guard (way = .throughLists)
      match items.getLast? with
      | some (.table inner) =>
        let inner ← changeTable way change inner rest
        return table.put key (.list (replaceLast items (.table inner)))
      | _ => none
    | _ => none

/-- Makes the table behind a key, if it is not there. -/
def openTable (table : Entries Data) (key : KeyPath) : Option (Entries Data) :=
  changeTable .throughLists some table key

/-- Adds a table to the end of the list behind a key. -/
def appendTable (table : Entries Data) (key : KeyPath) : Option (Entries Data) :=
  changeTable .throughLists
    (fun inner => do
      let last ← key.getLast?
      match inner.get? last with
      | none => return inner.put last (.list [.table []])
      | some (.list items) => return inner.put last (.list (items ++ [.table []]))
      | some _ => none)
    table key.dropLast

/-- Writes a value behind a key that is not there yet. -/
def addValue (way : Way) (table : Entries Data) (key : KeyPath) (value : Data) :
    Option (Entries Data) :=
  changeTable way
    (fun inner => do
      let last ← key.getLast?
      guard (!inner.has last)
      return inner.put last value)
    table key.dropLast

/-! ## Marks -/

/-- What may no longer be done behind a key. -/
inductive MarkKind where
  /-- The table has been declared and cannot be declared again. -/
  | declared
  /-- The list or the table was written in one piece. Nothing is added to it or inside it. -/
  | frozen
  deriving DecidableEq

/-- A mark on one key. -/
structure Mark where
  key : KeyPath
  kind : MarkKind
  deriving DecidableEq

abbrev Marks := List Mark

namespace Marks

/-- Whether a key has a mark. A frozen key freezes the keys below it. -/
def has (marks : Marks) (key : KeyPath) (kind : MarkKind) : Bool :=
  marks.any fun mark =>
    mark.kind = kind &&
      (mark.key = key || kind = .frozen && mark.key.isPrefixOf key)

def add (marks : Marks) (key : KeyPath) (kind : MarkKind) : Marks :=
  ⟨key, kind⟩ :: marks

/-- Takes the marks off a key and off the keys below it. -/
def clear (marks : Marks) (key : KeyPath) : Marks :=
  marks.filter fun mark => !key.isPrefixOf mark.key

end Marks

/-- Whether a value was written in one piece. -/
def isWhole : Data → Bool
  | .list _ | .table _ => true
  | _ => false

end DesignTokens.Toml
