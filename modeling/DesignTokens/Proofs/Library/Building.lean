import DesignTokens.Library.NameIndex
import DesignTokens.Proofs.Outcome
import Mathlib.Data.List.Forall2

/-!
# Building libraries

A library can be built from tokens with distinct ids when its sets list these ids only, and then it
has these tokens (`exists_build`). Whether names are strict does not decide whether it can be built
(`build_lenient`).
-/

namespace DesignTokens

namespace Roster

variable {α : Type} {key : α → String}

theorem mem_place {item other : α} {items : List α} (there : other ∈ place key item items) :
    other = item ∨ other ∈ items := by
  induction items with
  | nil => exact .inl (List.mem_singleton.1 there)
  | cons first rest ih =>
    rw [place] at there
    split at there
    · exact (List.mem_cons.1 there).imp_right (List.mem_cons_of_mem _)
    · rcases List.mem_cons.1 there with rfl | behind
      · exact .inr List.mem_cons_self
      · exact (ih behind).imp_right (List.mem_cons_of_mem _)

/-- Nothing is added. -/
theorem of_subset (key : α → String) (items : List α) : of key items ⊆ items := by
  suffices kept : ∀ placed : List α, ∀ other,
      other ∈ items.foldl (fun placed item => place key item placed) placed →
      other ∈ placed ∨ other ∈ items from
    fun other there => (kept [] other there).resolve_left (List.not_mem_nil)
  induction items with
  | nil => exact fun _ _ there => .inl there
  | cons item rest ih =>
    intro placed other there
    rcases ih _ other there with placed | behind
    · rcases mem_place placed with rfl | placed
      · exact .inr List.mem_cons_self
      · exact .inl placed
    · exact .inr (List.mem_cons_of_mem _ behind)

theorem place_of_not_mem {item : α} {items : List α} (new : key item ∉ items.map key) :
    place key item items = items ++ [item] := by
  induction items with
  | nil => rfl
  | cons first rest ih =>
    have other : key first ≠ key item := fun same => new (same ▸ List.mem_cons_self)
    have behind : key item ∉ rest.map key := fun there => new (List.mem_cons_of_mem _ there)
    rw [place, if_neg other, ih behind]
    rfl

/-- Where names are distinct, every item stays in its place. -/
theorem of_of_nodup {items : List α} (distinct : (items.map key).Nodup) : of key items = items := by
  suffices kept : ∀ placed : List α, ((placed ++ items).map key).Nodup →
      items.foldl (fun placed item => place key item placed) placed = placed ++ items from
    kept [] distinct
  clear distinct
  induction items with
  | nil => exact fun placed _ => (List.append_nil placed).symm
  | cons item rest ih =>
    intro placed distinct
    have new : key item ∉ placed.map key := by
      intro there
      rw [List.map_append, List.nodup_append] at distinct
      exact distinct.2.2 _ there _ List.mem_cons_self rfl
    rw [List.append_cons] at distinct
    rw [List.foldl_cons, place_of_not_mem new, ih _ distinct]
    exact (List.append_cons placed item rest).symm

/-- A name that is there already stays in its place, and another comes behind all. -/
theorem map_key_place (key : α → String) (item : α) (items : List α) :
    (place key item items).map key =
      if key item ∈ items.map key then items.map key else items.map key ++ [key item] := by
  induction items with
  | nil => rfl
  | cons first rest ih =>
    rw [place]
    by_cases same : key first = key item
    · rw [if_pos same, if_pos (same ▸ List.mem_cons_self), List.map_cons, List.map_cons, same]
    · rw [if_neg same, List.map_cons, List.map_cons, ih]
      by_cases there : key item ∈ rest.map key
      · rw [if_pos there, if_pos (List.mem_cons_of_mem _ there)]
      · have new : key item ∉ key first :: rest.map key := fun inside =>
          (List.mem_cons.1 inside).elim (fun is => same is.symm) there
        rw [if_neg there, if_neg new]
        rfl

/-- The names are kept in their order, and every name is kept. -/
theorem map_key_of (key : α → String) (items : List α) :
    ((of key items).map key).Sublist (items.map key) ∧
      items.map key ⊆ (of key items).map key := by
  suffices kept : ∀ placed : List α,
      ((items.foldl (fun placed item => place key item placed) placed).map key).Sublist
          (placed.map key ++ items.map key) ∧
        placed.map key ++ items.map key ⊆
          (items.foldl (fun placed item => place key item placed) placed).map key from kept []
  induction items with
  | nil =>
    intro placed
    rw [List.map_nil, List.append_nil]
    exact ⟨.refl _, List.Subset.refl _⟩
  | cons item rest ih =>
    intro placed
    obtain ⟨sublist, subset⟩ := ih (place key item placed)
    have smaller : ((place key item placed).map key).Sublist (placed.map key ++ [key item]) := by
      rw [map_key_place]
      split
      · exact List.sublist_append_left _ _
      · exact .refl _
    have larger : placed.map key ++ [key item] ⊆ (place key item placed).map key := by
      rw [map_key_place]
      split
      next there => exact List.append_subset.2 ⟨List.Subset.refl _, by simpa using there⟩
      next => exact List.Subset.refl _
    rw [List.foldl_cons, List.map_cons, List.append_cons]
    refine ⟨sublist.trans (smaller.append_right _), List.Subset.trans ?_ subset⟩
    exact List.append_subset.2 ⟨List.Subset.trans larger (List.subset_append_left _ _),
      List.subset_append_right _ _⟩

/-- Where a name says which item it is, no item is lost. -/
theorem mem_of_iff {items : List α} {item : α}
    (same : ∀ first ∈ items, ∀ second ∈ items, key first = key second → first = second) :
    item ∈ of key items ↔ item ∈ items := by
  refine ⟨fun there => of_subset key items there, fun there => ?_⟩
  have named := (map_key_of key items).2 (List.mem_map_of_mem there)
  obtain ⟨other, kept, isKey⟩ := List.mem_map.1 named
  rwa [same item there other (of_subset key items kept) isKey.symm]

/-! Items that are related, name by name, are placed alike. -/

section Related

variable {R : α → α → Prop} {item item' : α} {items items' : List α}

theorem forall₂_place (names : ∀ a b, R a b → key a = key b) (related : R item item')
    (others : List.Forall₂ R items items') :
    List.Forall₂ R (place key item items) (place key item' items') := by
  induction others with
  | nil => exact .cons related .nil
  | cons here behind ih =>
    rw [place, place, names _ _ here, names _ _ related]
    split
    · exact .cons related behind
    · exact .cons here ih

theorem forall₂_of (names : ∀ a b, R a b → key a = key b) (related : List.Forall₂ R items items') :
    List.Forall₂ R (of key items) (of key items') := by
  suffices placed : ∀ first first', List.Forall₂ R first first' →
      List.Forall₂ R (items.foldl (fun placed item => place key item placed) first)
        (items'.foldl (fun placed item => place key item placed) first') from placed [] [] .nil
  induction related with
  | nil => exact fun _ _ first => first
  | cons here _ ih => exact fun _ _ first => ih _ _ (forall₂_place names here first)

end Related

end Roster

namespace Library

variable {tokens : List Token} {sets : List TokenSet}

/-- No listed id is missing where sets list ids of tokens only. -/
theorem firstUnlisted?_eq_none {ids : List String}
    (listed : ∀ set ∈ sets, ∀ id ∈ set.ids, id ∈ ids) : firstUnlisted? ids sets = none := by
  refine List.find?_eq_none.2 fun entry there => ?_
  obtain ⟨set, setThere, there⟩ := List.mem_flatMap.1 there
  obtain ⟨id, idThere, rfl⟩ := List.mem_map.1 there
  simpa using listed set setThere id idThere

theorem exists_build (distinct : (tokens.map (·.id)).Nodup)
    (listed : ∀ set ∈ sets, ∀ id ∈ set.ids, id ∈ tokens.map (·.id)) (themes : List Theme)
    (strictNames : Bool) :
    ∃ library, build tokens sets themes strictNames = .ok library ∧ library.tokens = tokens := by
  have kept := Roster.of_of_nodup distinct
  unfold build
  dsimp only
  split
  next set id unlisted =>
    rw [kept, firstUnlisted?_eq_none fun set there => listed set (Roster.of_subset _ _ there)]
      at unlisted
    cases unlisted
  next => exact ⟨_, rfl, kept⟩

theorem sets_of_build {themes : List Theme} {strictNames : Bool} {library : Library}
    (built : build tokens sets themes strictNames = .ok library) :
    library.sets = Roster.of (·.name) sets := by
  unfold build at built
  dsimp only at built
  split at built
  · cases built
  · cases built
    rfl

/-- A library is built again from its own parts. -/
theorem build_self (library : Library) :
    build library.tokens library.sets library.themes library.strictNames = .ok library := by
  have tokens := Roster.of_of_nodup library.idsDistinct
  have sets := Roster.of_of_nodup library.setsDistinct
  have themes := Roster.of_of_nodup library.themesDistinct
  unfold build
  dsimp only
  split
  next set id unlisted =>
    rw [tokens, sets, firstUnlisted?_eq_none library.listed] at unlisted
    cases unlisted
  next => simp only [tokens, sets, themes]

/-- The same library with names that may be shared. -/
def lenient (library : Library) : Library := { library with strictNames := false }

theorem build_lenient (tokens : List Token) (sets : List TokenSet) (themes : List Theme) :
    build tokens sets themes false = (build tokens sets themes true).map lenient := by
  unfold build
  dsimp only
  split <;> rfl

end Library

end DesignTokens
