import DesignTokens.Proofs.Library.Names
import Mathlib.Data.List.Flatten
import Mathlib.Data.List.Pairwise
import Mathlib.Data.List.Perm.Subperm

/-!
# Sets and what they make active

A set of a library finds all tokens that it lists (`tokensInSet_of_mem`). In a partitioned library
the sets list the tokens of the library one after another, so each token is in one set only. Then
the active tokens of a theme are those of the sets that the theme selects, without repetition
(`subperm_tokensUnder`).
-/

namespace DesignTokens

namespace Theme

/-- No set is a source and enabled too. -/
theorem nodup_activeSets (theme : Theme) : theme.activeSets.Nodup := by
  have each (use : Use) : (theme.setsUsed use).Nodup :=
    theme.distinct.sublist (List.filter_sublist.map _)
  refine List.nodup_append.2 ⟨each _, each _, ?_⟩
  rintro name source _ enabled rfl
  obtain ⟨⟨_, use⟩, there, rfl⟩ := List.mem_map.1 source
  obtain ⟨⟨_, use'⟩, there', same⟩ := List.mem_map.1 enabled
  obtain ⟨there, use_eq⟩ := List.mem_filter.1 there
  obtain ⟨there', use_eq'⟩ := List.mem_filter.1 there'
  cases List.inj_on_of_nodup_map theme.distinct there' there same
  cases (of_decide_eq_true use_eq).symm.trans (of_decide_eq_true use_eq')

end Theme

namespace Library

variable {library : Library} {set : TokenSet} {token : Token} {theme : Theme}

/-! ## The tokens of a set -/

theorem token?_of_mem (there : token ∈ library.tokens) : library.token? token.id = some token :=
  Roster.get?_of_mem library.idsDistinct there

theorem set?_of_mem (there : set ∈ library.sets) : library.set? set.name = some set :=
  Roster.get?_of_mem library.setsDistinct there

/-- The tokens of a list are found by their ids. -/
theorem filterMap_token? {tokens : List Token} (known : tokens ⊆ library.tokens) :
    (tokens.map (·.id)).filterMap library.token? = tokens := by
  induction tokens with
  | nil => rfl
  | cons first rest ih =>
    have here : library.token? first.id = some first := token?_of_mem (known List.mem_cons_self)
    rw [List.map_cons, List.filterMap_cons_some here, ih (List.subset_of_cons_subset known)]

/-- A set finds all tokens that it lists. -/
theorem map_id_tokensOf (there : set ∈ library.sets) :
    (library.tokensOf set).map (·.id) = set.ids := by
  suffices found : ∀ ids : List String, (∀ id ∈ ids, id ∈ library.tokens.map (·.id)) →
      (ids.filterMap library.token?).map (·.id) = ids from found _ (library.listed set there)
  intro ids listed
  induction ids with
  | nil => rfl
  | cons id rest ih =>
    obtain ⟨token, known, rfl⟩ := List.mem_map.1 (listed _ List.mem_cons_self)
    rw [List.filterMap_cons_some (token?_of_mem known), List.map_cons,
      ih fun id there => listed id (List.mem_cons_of_mem _ there)]

/-- The tokens of a set of the library are those that it lists, all of them. -/
theorem tokensInSet_of_mem (there : set ∈ library.sets) :
    library.tokensInSet set.name = .ok (library.tokensOf set) ∧
      (library.tokensOf set).map (·.id) = set.ids := by
  refine ⟨?_, map_id_tokensOf there⟩
  unfold tokensInSet tokenSet
  rw [set?_of_mem there]
  rfl

/-- The tokens of sets by their names. -/
theorem mapM_tokensInSet {names : List String} (known : names ⊆ library.sets.map (·.name)) :
    names.mapM library.tokensInSet =
      .ok ((names.filterMap library.set?).map library.tokensOf) := by
  induction names with
  | nil => rfl
  | cons name rest ih =>
    obtain ⟨set, there, rfl⟩ := List.mem_map.1 (known List.mem_cons_self)
    rw [List.mapM_cons, (tokensInSet_of_mem there).1, ih (List.subset_of_cons_subset known),
      List.filterMap_cons_some (set?_of_mem there)]
    rfl

/-! ## Partitioned libraries -/

/-- The sets list the tokens of the library, one set after another. -/
def Partitioned (library : Library) : Prop :=
  library.sets.flatMap (·.ids) = library.tokens.map (·.id)

theorem nodup_tokens (library : Library) : library.tokens.Nodup :=
  .of_map _ library.idsDistinct

theorem Partitioned.flatMap_tokensOf (partitioned : library.Partitioned) :
    library.sets.flatMap library.tokensOf = library.tokens := by
  have together : library.sets.flatMap library.tokensOf =
      (library.sets.flatMap (·.ids)).filterMap library.token? :=
    List.filterMap_flatMap.symm
  rw [together, partitioned, filterMap_token? (List.Subset.refl _)]

/-- A token is in one set only. -/
theorem Partitioned.eq_of_mem (partitioned : library.Partitioned) {other : TokenSet}
    (here : set ∈ library.sets) (there : other ∈ library.sets)
    (inHere : token ∈ library.tokensOf set)
    (inThere : token ∈ library.tokensOf other) : set = other := by
  have distinct : (library.sets.flatMap library.tokensOf).Nodup := by
    rw [partitioned.flatMap_tokensOf]
    exact library.nodup_tokens
  have symmetric : Std.Symm (Function.onFun List.Disjoint library.tokensOf) :=
    ⟨fun _ _ apart => List.disjoint_symm apart⟩
  by_contra apart
  exact (List.nodup_flatMap.1 distinct).2.forall here there apart inHere inThere

/-! ## Active tokens -/

theorem mem_tokensUnder_iff : token ∈ library.tokensUnder theme ↔
    ∃ set ∈ library.sets, set.name ∈ theme.activeSets ∧ token ∈ library.tokensOf set := by
  unfold tokensUnder
  rw [List.mem_flatMap]
  constructor
  · rintro ⟨set, chosen, inSet⟩
    obtain ⟨name, active, found⟩ := List.mem_filterMap.1 chosen
    obtain ⟨there, rfl⟩ := Roster.get?_some found
    exact ⟨set, there, active, inSet⟩
  · rintro ⟨set, there, active, inSet⟩
    exact ⟨set, List.mem_filterMap.2 ⟨_, active, set?_of_mem there⟩, inSet⟩

/-- A token of a set is active exactly when the theme selects the set. -/
theorem Partitioned.mem_tokensUnder_iff (partitioned : library.Partitioned)
    (there : set ∈ library.sets) (inSet : token ∈ library.tokensOf set) :
    token ∈ library.tokensUnder theme ↔ set.name ∈ theme.activeSets := by
  rw [Library.mem_tokensUnder_iff]
  constructor
  · rintro ⟨other, known, active, inOther⟩
    rw [partitioned.eq_of_mem there known inSet inOther]
    exact active
  · exact fun active => ⟨set, there, active, inSet⟩

/-- Active tokens are tokens of the library, each of them once. -/
theorem Partitioned.subperm_tokensUnder (partitioned : library.Partitioned) (theme : Theme) :
    (library.tokensUnder theme).Subperm library.tokens := by
  have distinct : (theme.activeSets.filterMap library.set?).Nodup := by
    refine theme.nodup_activeSets.filterMap fun name name' set found found' => ?_
    rw [← (Roster.get?_some found).2, ← (Roster.get?_some found').2]
  have known : theme.activeSets.filterMap library.set? ⊆ library.sets := by
    intro set chosen
    obtain ⟨name, -, found⟩ := List.mem_filterMap.1 chosen
    exact (Roster.get?_some found).1
  obtain ⟨chosen, same, kept⟩ := List.subperm_of_subset distinct known
  rw [← partitioned.flatMap_tokensOf]
  exact ⟨chosen.flatMap library.tokensOf, same.flatMap_right _, kept.flatMap _⟩

theorem Partitioned.nodup_tokensUnder (partitioned : library.Partitioned) (theme : Theme) :
    ((library.tokensUnder theme).map (·.id)).Nodup := by
  obtain ⟨tokens, same, kept⟩ := partitioned.subperm_tokensUnder theme
  exact ((same.map _).nodup_iff).1 (library.idsDistinct.sublist (kept.map _))

/-- The active tokens of a theme, one set after another. -/
theorem tokensUnder_eq (theme : Theme) : library.tokensUnder theme =
    ((theme.sourceSets.filterMap library.set?).map library.tokensOf).flatten ++
      ((theme.enabledSets.filterMap library.set?).map library.tokensOf).flatten := by
  unfold tokensUnder Theme.activeSets
  rw [List.filterMap_append, List.flatMap_append, List.flatMap, List.flatMap]

end Library

end DesignTokens
