import DesignTokens.Library.NameIndex
import DesignTokens.Proofs.Outcome
import Mathlib.Data.List.Nodup

/-!
# What a name stands for

The index of some tokens keeps, under each name, the tokens of that name in order
(`NameIndex.matching_of`). So a name stands for the first active token that has it
(`Library.find?_of_find`), and that token is a token of the library.
-/

namespace DesignTokens

namespace NameIndex

theorem matching_add (index : NameIndex) (token : Token) (name : String) :
    (index.add token).matching name =
      index.matching name ++ if token.name = name then [token] else [] := by
  unfold add matching
  split
  next same =>
    subst same
    rw [Entries.get?_put_self]
    rfl
  next other =>
    rw [Entries.get?_put_of_ne index _ fun same => other same.symm, List.append_nil]

theorem matching_foldl (tokens : List Token) (index : NameIndex) (name : String) :
    (tokens.foldl add index).matching name =
      index.matching name ++ tokens.filter (·.name = name) := by
  induction tokens generalizing index with
  | nil => simp
  | cons token rest ih =>
    rw [List.foldl_cons, ih, matching_add, List.append_assoc, List.filter_cons]
    by_cases same : token.name = name <;> simp [same]

/-- The index keeps the tokens of each name, in order. -/
theorem matching_of (tokens : List Token) (name : String) :
    (of tokens).matching name = tokens.filter (·.name = name) :=
  matching_foldl tokens [] name

/-- The token found is the first that has the name. -/
theorem find?_of_find {tokens : List Token} {strict : Bool} {name : String} {found : Option Token}
    (finds : (of tokens).find strict name = .ok found) :
    tokens.find? (·.name = name) = found := by
  unfold find at finds
  rw [matching_of] at finds
  rw [← List.head?_filter]
  split at finds
  next none => cases finds; rw [none]; rfl
  next first others some =>
    split at finds
    · cases finds
    · cases finds
      rw [some]
      rfl

end NameIndex

/-- Where names are distinct, each item is found by its own. -/
theorem Roster.get?_of_mem {α : Type} {key : α → String} {items : List α} {item : α}
    (distinct : (items.map key).Nodup) (there : item ∈ items) :
    Roster.get? key items (key item) = some item := by
  cases found : Roster.get? key items (key item) with
  | none =>
    have missing := List.find?_eq_none.1 found item there
    exact absurd (beq_self_eq_true (key item)) missing
  | some other =>
    obtain ⟨mem, same⟩ := Roster.get?_some found
    rw [List.inj_on_of_nodup_map distinct mem there same]

namespace Library

variable {library : Library} {theme : Option String} {active : List Token} {name : String}

/-- The index of a theme says what a name stands for. -/
theorem find_of_nameIndex {index : NameIndex} (indexed : library.nameIndex theme = .ok index)
    (name : String) : library.find theme name = index.find library.strictNames name := by
  unfold find
  rw [indexed]
  rfl

theorem nameIndex_of_active (actives : library.activeTokens theme = .ok active) :
    library.nameIndex theme = .ok (NameIndex.of active) := by
  unfold nameIndex
  rw [actives]
  rfl

/-- A name that active tokens have stands for the first of them, unless names are strict and there
are several. -/
theorem find_of_sharing {first : Token} {others : List Token}
    (actives : library.activeTokens theme = .ok active)
    (sharing : active.filter (·.name = name) = first :: others)
    (lenient : library.strictNames = false ∨ others = []) :
    library.find theme name = .ok (some first) := by
  rw [find_of_nameIndex (nameIndex_of_active actives)]
  unfold NameIndex.find
  rw [NameIndex.matching_of, sharing]
  rcases lenient with lenient | rfl
  · simp [lenient]
  · simp

/-- Where names are strict, a name that several active tokens have is refused. -/
theorem find_of_several {first : Token} {others : List Token}
    (actives : library.activeTokens theme = .ok active)
    (sharing : active.filter (·.name = name) = first :: others)
    (strict : library.strictNames = true) (several : others ≠ []) :
    library.find theme name =
      .error (.resolve (.ambiguous name ((first :: others).map (·.id)))) := by
  rw [find_of_nameIndex (nameIndex_of_active actives)]
  unfold NameIndex.find
  rw [NameIndex.matching_of, sharing]
  simp [strict, several]

/-- Active tokens are tokens of the library. -/
theorem mem_tokens_of_active (actives : library.activeTokens theme = .ok active) {u : Token}
    (there : u ∈ active) : u ∈ library.tokens := by
  cases theme with
  | none =>
    cases actives
    exact there
  | some title =>
    obtain ⟨theme, -, rfl⟩ := Except.map_eq_ok.1 actives
    obtain ⟨set, -, there⟩ := List.mem_flatMap.1 there
    obtain ⟨id, -, found⟩ := List.mem_filterMap.1 there
    exact (Roster.get?_some found).1

/-- A name stands for the first active token that has it. -/
theorem find?_of_find {found : Option Token} (finds : library.find theme name = .ok found) :
    ∃ active, library.activeTokens theme = .ok active ∧
      active.find? (·.name = name) = found := by
  obtain ⟨index, indexed, finds⟩ := Except.bind_eq_ok.1 finds
  obtain ⟨active, actives, rfl⟩ := Except.map_eq_ok.1 indexed
  exact ⟨active, actives, NameIndex.find?_of_find finds⟩

/-- The token that is found is an active token of the name. -/
theorem mem_active_of_find (actives : library.activeTokens theme = .ok active) {u : Token}
    (found : library.find theme name = .ok (some u)) : u ∈ active ∧ u.name = name := by
  obtain ⟨_, actives', first⟩ := find?_of_find found
  cases actives.symm.trans actives'
  exact ⟨List.mem_of_find?_eq_some first, by simpa using List.find?_some first⟩

theorem mem_tokens_of_find {u : Token} (found : library.find theme name = .ok (some u)) :
    u ∈ library.tokens := by
  obtain ⟨active, actives, -⟩ := find?_of_find found
  exact mem_tokens_of_active actives (mem_active_of_find actives found).1

/-- A theme of the library is the one that its name finds. -/
theorem theme_of_mem {theme : Theme} (there : theme ∈ library.themes) :
    library.theme theme.name = .ok theme := by
  unfold Library.theme Library.theme?
  rw [Roster.get?_of_mem library.themesDistinct there]

/-- The tokens that are active under a theme of the library. -/
theorem activeTokens_of_mem {theme : Theme} (there : theme ∈ library.themes) :
    library.activeTokens (some theme.name) = .ok (library.tokensUnder theme) := by
  show (library.theme theme.name).map library.tokensUnder = _
  rw [theme_of_mem there]
  rfl

/-- Two tokens of one id are one token. -/
theorem eq_of_id_eq {u v : Token} (here : u ∈ library.tokens) (there : v ∈ library.tokens)
    (same : u.id = v.id) : u = v :=
  List.inj_on_of_nodup_map library.idsDistinct here there same

end Library

/-! ## Small libraries -/

/-- A token of a single text. -/
def Token.spacing (id name raw : String) : Token :=
  ⟨id, name, .spacing, .plain raw, rfl, List.nodup_nil⟩

/-- A color of a single text. -/
def Token.color (id name raw : String) : Token :=
  ⟨id, name, .color, .plain raw, rfl, List.nodup_nil⟩

/-- A shadow of some layers. -/
def Token.boxShadow (id name : String) (layers : List ShadowLayer) : Token :=
  ⟨id, name, .boxShadow, .shadow layers, rfl, List.nodup_nil⟩

/-- A library of some tokens, without sets and themes. -/
def Library.ofTokens (tokens : List Token) (distinct : (tokens.map (·.id)).Nodup) : Library where
  tokens := tokens
  sets := []
  themes := []
  strictNames := false
  idsDistinct := distinct
  setsDistinct := List.nodup_nil
  themesDistinct := List.nodup_nil
  listed := nofun

end DesignTokens
