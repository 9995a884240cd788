import DesignTokens.Entries

/-!
# Files and directories

A node is a file with its bytes or a directory with its entries. A place below a node is a list of
names, outermost first.
-/

namespace DesignTokens

/-- A file or a directory. -/
inductive Node where
  | file (bytes : ByteArray)
  | directory (entries : List (String × Node))

namespace Node

/-- The directory without entries. -/
def empty : Node := .directory []

instance : Inhabited Node := ⟨empty⟩

/-- The entries of a directory. A file has none. -/
def entries : Node → Entries Node
  | .file _ => []
  | .directory entries => entries

def isDirectory : Node → Bool
  | .file _ => false
  | .directory _ => true

/-- The node at a place. -/
def get? (node : Node) : List String → Option Node
  | [] => some node
  | name :: rest => (node.entries.get? name).bind (·.get? rest)

/-- Puts a node at a place. Directories on the way are made where there are none. -/
def put (node : Node) (new : Node) : List String → Node
  | [] => new
  | name :: rest =>
    .directory (node.entries.put name (put ((node.entries.get? name).getD empty) new rest))

/-- Takes the node at a place away. -/
def erase (node : Node) : List String → Node
  | [] => empty
  | [name] => .directory (node.entries.filter (·.1 != name))
  | name :: next :: rest =>
    match node.entries.get? name with
    | some child => .directory (node.entries.put name (child.erase (next :: rest)))
    | none => node

mutual
/-- All nodes below a node with their places, each directory before what is in it. -/
def inside (place : List String) : Node → List (List String × Node)
  | .file _ => []
  | .directory entries => insideEntries place entries

def insideEntries (place : List String) : List (String × Node) → List (List String × Node)
  | [] => []
  | (name, node) :: rest =>
    (place ++ [name], node) :: inside (place ++ [name]) node ++ insideEntries place rest
end

/-- The nodes below a node with their places. -/
def all (node : Node) : List (List String × Node) :=
  inside [] node

/-- The files below a node with their places and their bytes. -/
def files (node : Node) : List (List String × ByteArray) :=
  node.all.filterMap fun
    | (place, .file bytes) => some (place, bytes)
    | _ => none

/-- The places of the directories below a node. -/
def directories (node : Node) : List (List String) :=
  (node.all.filter (·.2.isDirectory)).map (·.1)

end Node

end DesignTokens
