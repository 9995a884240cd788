import DesignTokens.Toml.Nest
import DesignTokens.Toml.Scalar
import DesignTokens.Toml.Text

/-!
# Values in TOML

A value is a string, a boolean, a list, a table on one line, a date or a time, or a number, and is
looked for in this order.
-/

namespace DesignTokens.Toml

open DesignTokens.Text

/-- Goes on behind a value when something was read. -/
def behind {s : List Char} (cause : Fault) (value : Data) (left : List Char) :
    Except Error (Data × Rest s) :=
  if h : left.length < s.length then .ok (value, ⟨left, h⟩) else fault cause s

/-- A boolean, a date, a time or a number. -/
def readScalar (s : List Char) : Except Error (Data × Rest s) :=
  if "true".toList.isPrefixOf s then behind .invalidValue (.boolean true) (s.drop 4)
  else if "false".toList.isPrefixOf s then behind .invalidValue (.boolean false) (s.drop 5)
  else
    match dateTime? s with
    | some (date, moment, left) =>
      if date.valid then behind .invalidValue (.moment moment) left else fault .invalidDate s
    | none =>
      match time? s with
      | some (time, left) => behind .invalidValue (.moment (.time time)) left
      | none =>
        match number? s with
        | some (.ok (value, left)) => behind .invalidValue value left
        | some (.error cause) => fault cause s
        | none =>
          match numberWord? s with
          | some (value, left) => behind .invalidValue value left
          | none => fault .invalidValue s

/-- A table on one line as far as it has been read. -/
structure Inline where
  table : Entries Data
  marks : Marks

/-- Adds a value. The place of an error is the text behind the value. -/
def Inline.add (inline : Inline) (key : KeyPath) (value : Data) (left : List Char) :
    Except Error Inline :=
  if inline.marks.has key .frozen then fault (.immutable key) left
  else
    match changeTable .tablesOnly some inline.table key.dropLast with
    | none => fault .overwrite left
    | some _ =>
      match addValue .tablesOnly inline.table key value with
      | none => fault (.duplicateKey (key.getLast?.getD "")) left
      | some table =>
        .ok ⟨table, if isWhole value then inline.marks.add key .frozen else inline.marks⟩

mutual
/-- A value at the front of `s`. -/
def readValue (s : List Char) : Except Error (Data × Rest s) :=
  match s with
  | '"' :: '"' :: '"' :: rest => do
    let (text, left) ← readLines '"' rest
    return (.text (String.ofList text), ((left.under '"').under '"').under '"')
  | '"' :: rest => do
    let (text, left) ← readBasic false rest
    return (.text (String.ofList text), left.under '"')
  | '\'' :: '\'' :: '\'' :: rest => do
    let (text, left) ← readLines '\'' rest
    return (.text (String.ofList text), ((left.under '\'').under '\'').under '\'')
  | '\'' :: rest => do
    let (text, left) ← readLiteral rest
    return (.text (String.ofList text), left.under '\'')
  | '[' :: rest => do
    let start ← skipLines rest
    match after? ']' start.1 with
    | some left => return (.list [], (start.andThen left).under '[')
    | none =>
      let (items, left) ← readItems start.1
      return (.list items, (start.andThen left).under '[')
  | '{' :: rest => do
    let start := skip isBlank rest
    match after? '}' start.1 with
    | some left => return (.table [], (start.andThen left).under '{')
    | none =>
      let (table, left) ← readInline ⟨[], []⟩ start.1
      return (.table table, (start.andThen left).under '{')
  | s => readScalar s
termination_by (s.length, 0)
decreasing_by all_goals exact .left _ _ (Nat.lt_succ_of_le start.2)

/-- The items of a list up to its closing bracket. There is at least one. A comma may follow the
last one. -/
def readItems (s : List Char) : Except Error (List Data × Rest s) := do
  let (item, rest) ← readValue s
  let lines ← skipLines rest.1
  let next := rest.thenAtMost lines
  match after? ']' next.1 with
  | some left => return ([item], next.andThen left)
  | none =>
    match after? ',' next.1 with
    | some comma =>
      let lines ← skipLines comma.1
      let start := next.andThen (comma.thenAtMost lines)
      match after? ']' start.1 with
      | some left => return ([item], start.andThen left)
      | none =>
        let (items, left) ← readItems start.1
        return (item :: items, start.andThen left)
    | none => fault .unclosedArray next.1
termination_by (s.length, 2)
decreasing_by
  · exact .right _ Nat.two_pos
  · exact .left _ _ start.2

/-- A key with its value. -/
def readPair (s : List Char) : Except Error (KeyPath × Data × Rest s) := do
  let (key, rest) ← readKey s
  match after? '=' rest.1 with
  | some sign =>
    let start := rest.andThen (sign.thenAtMost (skip isBlank sign.1))
    let (value, left) ← readValue start.1
    return (key, value, start.andThen left)
  | none => fault .expectedEquals rest.1
termination_by (s.length, 1)
decreasing_by exact .left _ _ start.2

/-- The pairs of a table on one line up to its closing brace. There is at least one. -/
def readInline (inline : Inline) (s : List Char) : Except Error (Entries Data × Rest s) := do
  let (key, value, rest) ← readPair s
  let inline ← inline.add key value rest.1
  let next := rest.thenAtMost (skip isBlank rest.1)
  match after? '}' next.1 with
  | some left => return (inline.table, next.andThen left)
  | none =>
    match after? ',' next.1 with
    | some comma =>
      let start := next.andThen (comma.thenAtMost (skip isBlank comma.1))
      let (table, left) ← readInline inline start.1
      return (table, start.andThen left)
    | none => fault .unclosedTable next.1
termination_by (s.length, 2)
decreasing_by
  · exact .right _ (Nat.lt_succ_self 1)
  · exact .left _ _ start.2
end

end DesignTokens.Toml
