import DesignTokens.Toml.Value

/-!
# Reading TOML

A document is a sequence of statements, one to a line. A header in brackets opens a table for the
pairs after it. A header in double brackets adds a table to a list. A pair writes a value that is
not there yet. `Toml.read` reads a whole document, whose line ends are line feeds.
-/

namespace DesignTokens.Toml

open DesignTokens.Text

/-- A document as far as it has been read. -/
structure State where
  table : Entries Data
  marks : Marks
  /-- Tables that dotted keys have made. They count as declared from the next header on. -/
  pending : List KeyPath
  /-- The table that pairs are written to. -/
  header : KeyPath

def State.start : State := ⟨[], [], [], []⟩

namespace State

/-- Declares the tables that dotted keys have made. -/
def settle (state : State) : State :=
  { state with
    marks := state.pending.foldl (fun marks key => marks.add key .declared) state.marks
    pending := [] }

/-- Opens a table. `left` is the place of an error. -/
def declare (state : State) (key : KeyPath) (left : List Char) : Except Error State :=
  if state.marks.has key .declared || state.marks.has key .frozen then
    fault (.declaredTwice key) left
  else
    match openTable state.table key with
    | none => fault .overwrite left
    | some table =>
      .ok { state with table := table, marks := state.marks.add key .declared, header := key }

/-- Adds a table to a list and opens it. What was declared inside the table before it is free
again. -/
def append (state : State) (key : KeyPath) (left : List Char) : Except Error State :=
  if state.marks.has key .frozen then fault (.immutable key) left
  else
    match appendTable state.table key with
    | none => fault .overwrite left
    | some table =>
      .ok { state with
        table := table
        marks := (state.marks.clear key).add key .declared
        header := key }

/-- The tables that a dotted key goes through. -/
def through (header : KeyPath) : KeyPath → List KeyPath
  | [] | [_] => []
  | part :: next :: rest => (header ++ [part]) :: through (header ++ [part]) (next :: rest)

/-- Writes a value. -/
def write (state : State) (key : KeyPath) (value : Data) (left : List Char) :
    Except Error State :=
  let passed := through state.header key
  let whole := state.header ++ key
  match passed.find? (state.marks.has · .declared) with
  | some redefined => fault (.redefined redefined) left
  | none =>
    if state.marks.has whole.dropLast .frozen then fault (.immutable whole.dropLast) left
    else
      match addValue .throughLists state.table whole value with
      | none => fault .overwrite left
      | some table =>
        .ok { state with
          table := table
          marks := if isWhole value then state.marks.add whole .frozen else state.marks
          pending := state.pending ++ passed }

end State

/-- A header in single or double brackets. -/
def readHeader (state : State) (s : List Char) : Except Error (State × Rest s) :=
  match s with
  | '[' :: '[' :: rest => do
    let start := skip isBlank rest
    let (key, left) ← readKey start.1
    let state ← state.settle.append key left.1
    match (after? ']' left.1).bind fun first => (after? ']' first.1).map first.andThen with
    | some behind => return (state, ((start.andThen (left.andThen behind)).under '[').under '[')
    | none => fault .unclosedListHeader left.1
  | '[' :: rest => do
    let start := skip isBlank rest
    let (key, left) ← readKey start.1
    let state ← state.settle.declare key left.1
    match after? ']' left.1 with
    | some behind => return (state, (start.andThen (left.andThen behind)).under '[')
    | none => fault .unclosedHeader left.1
  | s => fault .invalidStatement s

/-- A statement. An empty line and a comment are none. -/
def readStatement (state : State) (s : List Char) : Except Error (State × AtMost s) :=
  match s with
  | [] => return (state, .all [])
  | c :: rest =>
    if startsKey c then do
      let (key, value, left) ← readPair (c :: rest)
      let state ← state.write key value left.1
      return (state, left.atMost)
    else if c = '[' then do
      let (state, left) ← readHeader state (c :: rest)
      return (state, left.atMost)
    else if c = '#' ∨ c = '\n' then return (state, .all (c :: rest))
    else fault .invalidStatement (c :: rest)

/-- The statements of a document. -/
def readStatements (state : State) (s : List Char) : Except Error State := do
  let start := skip isBlank s
  let (state, left) ← readStatement state start.1
  let blanks := start.thenAtMost (left.thenAtMost (skip isBlank left.1))
  let comment ← skipComment blanks.1
  let behind := blanks.thenAtMost comment
  if behind.1.isEmpty then return state
  else
    match after? '\n' behind.1 with
    | some lineEnd =>
      let next := behind.andThen lineEnd
      readStatements state next.1
    | none => fault .expectedLineEnd behind.1
termination_by s.length
decreasing_by exact next.2

/-- A whole document. -/
def read (source : List Char) : Except Error (Entries Data) :=
  (readStatements .start source).map (·.table)

end DesignTokens.Toml
