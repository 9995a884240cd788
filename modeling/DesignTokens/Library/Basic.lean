import DesignTokens.Failure
import DesignTokens.Roster
import DesignTokens.Theme
import DesignTokens.Token.Basic

/-!
# Token libraries

A library holds the tokens, the token sets and the themes of a design, each in the order of its
declaration. It never changes. `Library.build` makes one and refuses a set that lists an id which
no token has.
-/

namespace DesignTokens

/-- Tokens, sets and themes. -/
structure Library where
  tokens : List Token
  sets : List TokenSet
  themes : List Theme
  /-- Whether a reference may not match more than one active token. -/
  strictNames : Bool
  /-- No two tokens share an id. -/
  idsDistinct : (tokens.map (·.id)).Nodup
  /-- No two sets share a name. -/
  setsDistinct : (sets.map (·.name)).Nodup
  /-- No two themes share a name. -/
  themesDistinct : (themes.map (·.name)).Nodup
  /-- A set lists tokens of the library only. -/
  listed : ∀ set ∈ sets, ∀ id ∈ set.ids, id ∈ tokens.map (·.id)

namespace Library

/-- The first id in the sets that no token has, with the name of its set. -/
def firstUnlisted? (ids : List String) (sets : List TokenSet) : Option (String × String) :=
  (sets.flatMap fun set => set.ids.map (set.name, ·)).find? fun entry => !ids.contains entry.2

theorem listed_of_none {ids : List String} {sets : List TokenSet}
    (h : firstUnlisted? ids sets = none) : ∀ set ∈ sets, ∀ id ∈ set.ids, id ∈ ids := by
  intro set hs id hi
  have entry : (set.name, id) ∈ sets.flatMap fun set => set.ids.map (set.name, ·) :=
    List.mem_flatMap.2 ⟨set, hs, List.mem_map.2 ⟨id, hi, rfl⟩⟩
  simpa using List.find?_eq_none.1 h _ entry

/-- The library of some tokens, sets and themes. Of several with one name the first gives the place
and the last gives the value. -/
def build (tokens : List Token) (sets : List TokenSet) (themes : List Theme)
    (strictNames : Bool) : Except Failure Library :=
  let tokens := Roster.of (·.id) tokens
  let sets := Roster.of (·.name) sets
  let themes := Roster.of (·.name) themes
  match unlisted : firstUnlisted? (tokens.map (·.id)) sets with
  | some (set, id) => .error (.load (.unknownTokenInSet set id) none none)
  | none =>
    .ok ⟨tokens, sets, themes, strictNames, Roster.nodup_of _ _, Roster.nodup_of _ _,
      Roster.nodup_of _ _, listed_of_none unlisted⟩

/-! ## Finding by id and by name -/

/-- The token of an id. -/
def token? (library : Library) (id : String) : Option Token :=
  Roster.get? (·.id) library.tokens id

/-- The set of a name. -/
def set? (library : Library) (name : String) : Option TokenSet :=
  Roster.get? (·.name) library.sets name

/-- The theme of a name. -/
def theme? (library : Library) (name : String) : Option Theme :=
  Roster.get? (·.name) library.themes name

/-- The token of an id, or the failure that there is none. -/
def lookup (library : Library) (id : String) : Except Failure Token :=
  match library.token? id with
  | some token => .ok token
  | none => .error (.resolve (.unknownToken id))

/-- The set of a name, or the failure that there is none. -/
def tokenSet (library : Library) (name : String) : Except Failure TokenSet :=
  match library.set? name with
  | some set => .ok set
  | none => .error (.unknownSet name)

/-- The theme of a name, or the failure that there is none. -/
def theme (library : Library) (name : String) : Except Failure Theme :=
  match library.theme? name with
  | some theme => .ok theme
  | none => .error (.resolve (.unknownTheme name))

/-- The tokens of a set, in the order in which the set lists them. -/
def tokensOf (library : Library) (set : TokenSet) : List Token :=
  set.ids.filterMap library.token?

/-- The tokens of the set of a name. -/
def tokensInSet (library : Library) (name : String) : Except Failure (List Token) :=
  (library.tokenSet name).map library.tokensOf

/-! ## Active tokens -/

/-- The tokens that a theme makes active: those of its source sets, then those of its enabled sets.
A set that the library does not have is passed over. -/
def tokensUnder (library : Library) (theme : Theme) : List Token :=
  (theme.activeSets.filterMap library.set?).flatMap library.tokensOf

/-- The active tokens under the theme of a name, or all tokens without a theme. -/
def activeTokens (library : Library) : Option String → Except Failure (List Token)
  | none => .ok library.tokens
  | some name => (library.theme name).map library.tokensUnder

end Library

end DesignTokens
