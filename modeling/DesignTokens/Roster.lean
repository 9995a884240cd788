/-!
# Lists whose items have names of their own

Tokens, sets and themes are kept in the order of their declaration, and each is found by its own
name. `Roster.of` makes such a list from any list: of several items of one name the first gives the
place and the last gives the value.
-/

namespace DesignTokens.Roster

variable {α : Type} {key : α → String}

/-- Puts an item into the place of the item of the same name, or at the end. -/
def place (key : α → String) (item : α) : List α → List α
  | [] => [item]
  | first :: rest => if key first = key item then item :: rest else first :: place key item rest

/-- The items, one for each name. -/
def of (key : α → String) (items : List α) : List α :=
  items.foldl (fun placed item => place key item placed) []

/-- The item of a name. -/
def get? (key : α → String) (items : List α) (name : String) : Option α :=
  items.find? (key · == name)

theorem key_mem_of_place {item : α} {items : List α} {name : String}
    (h : name ∈ (place key item items).map key) : name = key item ∨ name ∈ items.map key := by
  induction items with
  | nil => simp_all [place]
  | cons first rest ih =>
    simp only [place] at h
    split at h
    · simp_all
    · simp only [List.map_cons, List.mem_cons] at h ⊢
      rcases h with h | h
      · exact .inr (.inl h)
      · rcases ih h with h | h
        · exact .inl h
        · exact .inr (.inr h)

theorem nodup_place {item : α} {items : List α} (h : (items.map key).Nodup) :
    ((place key item items).map key).Nodup := by
  induction items with
  | nil => simp [place]
  | cons first rest ih =>
    simp only [place]
    simp only [List.map_cons, List.nodup_cons] at h
    split
    · next same => simpa [← same] using h
    · next other =>
      simp only [List.map_cons, List.nodup_cons]
      refine ⟨fun found => ?_, ih h.2⟩
      rcases key_mem_of_place found with same | found
      · exact other same
      · exact h.1 found

/-- No name is there twice. -/
theorem nodup_of (key : α → String) (items : List α) : ((of key items).map key).Nodup := by
  suffices h : ∀ placed : List α, (placed.map key).Nodup →
      ((items.foldl (fun placed item => place key item placed) placed).map key).Nodup from
    h [] .nil
  induction items with
  | nil => exact fun _ h => h
  | cons item rest ih => exact fun placed h => ih _ (nodup_place h)

/-- What is found by a name is in the list and has that name. -/
theorem get?_some {items : List α} {name : String} {item : α}
    (h : get? key items name = some item) : item ∈ items ∧ key item = name :=
  ⟨List.mem_of_find?_eq_some h, by simpa using List.find?_some h⟩

end DesignTokens.Roster
