import DesignTokens.Library.Basic

/-!
# Tokens in a token document

A token set is a tree of tables. A table whose type is a text is a token. Any other table is a
group, and its keys are steps to the tokens inside it. Keys that start with `$` belong to a group
itself and are passed over, and nothing inside a token is looked at.

`Source.nodes` lists the tokens of a set as they are found, depth first in the order of the
document, together with the places where neither a token nor a group is. `Source.parseTokens` builds
the tokens one after another and stops at the first fault.
-/

namespace DesignTokens.Source

/-- The value of a field under its plain name, or under the name with a leading `$`. The plain name
goes first also where it holds something unusable. -/
def field (entries : Entries Data) (plain dollar : String) : Option Data :=
  match entries.get? plain with
  | some value => some value
  | none => entries.get? dollar

/-- The word that says what kind of token a table is. -/
def typeWord? (entries : Entries Data) : Option String :=
  (field entries "type" "$type").bind (·.text?)

/-- A place in a token set. -/
inductive Node where
  /-- A token with its type and its fields. -/
  | token (path : List String) (word : String) (entries : Entries Data)
  /-- A value that is no table. -/
  | stray (path : List String)

/-- The keys from the set to a node. -/
def Node.path : Node → List String
  | .token path _ _ => path
  | .stray path => path

/-- Whether a key belongs to the group itself. -/
def isOwnKey (key : String) : Bool :=
  key.toList.head? == some '$'

mutual
/-- The nodes at and inside the value at `path`. -/
def nodesAt (path : List String) : Data → List Node
  | .table entries =>
    match typeWord? entries with
    | some word => [.token path word entries]
    | none => nodesIn path entries
  | _ => [.stray path]

/-- The nodes inside a group. -/
def nodesIn (path : List String) : List (String × Data) → List Node
  | [] => []
  | (key, value) :: rest =>
    if isOwnKey key then nodesIn path rest
    else nodesAt (path ++ [key]) value ++ nodesIn path rest
end

/-- The nodes of a token set. -/
def nodes (entries : Entries Data) : List Node :=
  nodesIn [] entries

/-- The name of the tokens' ids for a set: its slug with dots for slashes. -/
def idStem (slug : String) : String :=
  String.ofList (slug.toList.map fun c => if c = '/' then '.' else c)

/-- The name of a node inside its set. -/
def Node.name (node : Node) : String :=
  ".".intercalate node.path

/-- The token at a node. -/
def Node.toToken (node : Node) (slug : String) : Except LoadFault Token :=
  match node with
  | .stray _ => .error .notATokenOrGroup
  | .token _ word entries =>
    match TokenKind.ofWord? word with
    | none => .error (.unknownKind word)
    | some kind =>
      match field entries "value" "$value" with
      | none | some .null => .error .noValue
      | some value =>
        match Token.ofData (idStem slug ++ "." ++ node.name) node.name kind value with
        | .ok built => .ok built
        | .error issues => .error (.invalidValue kind issues)

/-- Adds the tokens of some nodes to the tokens before them. -/
def addNodes (slug : String) (file : Option Path) (tokens : List Token) :
    List Node → Except Failure (List Token)
  | [] => .ok tokens
  | node :: rest =>
    match node.toToken slug with
    | .error fault => .error (.load fault file (some node.name))
    | .ok token =>
      if tokens.any (·.id = token.id) then
        .error (.load (.duplicateToken token.id) file (some token.name))
      else addNodes slug file (tokens ++ [token]) rest

/-- Tokens and the sets they come from. -/
structure Parsed where
  tokens : List Token
  sets : List TokenSet

/-- Adds a set with its tokens. `file` is where the set was read from. -/
def addSet (slug : String) (file : Option Path) (data : Data) (before : Parsed) :
    Except Failure Parsed :=
  match data with
  | .table entries => do
    let tokens ← addNodes slug file before.tokens (nodes entries)
    let ids := (tokens.drop before.tokens.length).map (·.id)
    return ⟨tokens, before.sets ++ [⟨slug, ids⟩]⟩
  | _ => .error (.load (.setNotAnObject slug) file none)

/-- A token set before its tokens are built. -/
structure RawSet where
  slug : String
  file : Option Path
  data : Data

/-- Adds some sets, one after another. -/
def addSets (before : Parsed) : List RawSet → Except Failure Parsed
  | [] => .ok before
  | set :: rest => do
    let after ← addSet set.slug set.file set.data before
    addSets after rest

/-- The tokens of some sets, in the order of the sets. -/
def parseTokens (sets : List RawSet) : Except Failure Parsed :=
  addSets ⟨[], []⟩ sets

end DesignTokens.Source
