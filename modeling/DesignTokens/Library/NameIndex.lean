import DesignTokens.Library.Basic

/-!
# Tokens by name

References name tokens by their name inside a set, so several active tokens may share one.
`NameIndex.of` groups tokens by name, in the order in which the names first occur, and `find`
chooses among the tokens of one name: the first one, or none of several where names are strict.
-/

namespace DesignTokens

/-- The tokens of each name, in order. -/
abbrev NameIndex := Entries (List Token)

namespace NameIndex

/-- Adds a token to the tokens of its name. -/
def add (index : NameIndex) (token : Token) : NameIndex :=
  index.put token.name ((index.get? token.name).getD [] ++ [token])

/-- The index of some tokens. -/
def of (tokens : List Token) : NameIndex :=
  tokens.foldl add []

/-- The tokens of a name. -/
def matching (index : NameIndex) (name : String) : List Token :=
  (index.get? name).getD []

/-- The names that several tokens share. -/
def shared (index : NameIndex) : NameIndex :=
  index.filter (·.2.length > 1)

/-- The token that a name stands for, if any. -/
def find (index : NameIndex) (strict : Bool) (name : String) : Except Failure (Option Token) :=
  match index.matching name with
  | [] => .ok none
  | first :: others =>
    if strict && !others.isEmpty then
      .error (.resolve (.ambiguous name ((first :: others).map (·.id))))
    else .ok (some first)

end NameIndex

namespace Library

/-- The index of the tokens that are active under a theme. -/
def nameIndex (library : Library) (theme : Option String) : Except Failure NameIndex :=
  (library.activeTokens theme).map NameIndex.of

/-- The active token that a name stands for, if any. -/
def find (library : Library) (theme : Option String) (name : String) :
    Except Failure (Option Token) := do
  (← library.nameIndex theme).find library.strictNames name

end Library

end DesignTokens
