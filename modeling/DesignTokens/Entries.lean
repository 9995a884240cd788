/-!
# Entries in order of first arrival

A document, a token library and a set of output files are all maps whose order shows: the first
time a key arrives fixes its place, the last time fixes its value. `Entries α` is such a map as a
plain list of pairs, so that it can also stand inside a recursive value.

* `put` writes a value: a key that is present keeps its place, a new key goes to the end.
* `get?` reads it back.
* `ofList` reads a list of pairs as a sequence of writes.
-/

namespace DesignTokens

/-- Keys with their values, in order of first arrival. -/
abbrev Entries (α : Type) := List (String × α)

namespace Entries

variable {α : Type}

/-- The value of a key, if the key is there. -/
def get? (entries : Entries α) (key : String) : Option α :=
  entries.lookup key

/-- Whether the key is there. -/
def has (entries : Entries α) (key : String) : Bool :=
  entries.any (·.1 == key)

/-- The keys, in order. -/
def keys (entries : Entries α) : List String :=
  entries.map (·.1)

/-- Writes `value` under `key`. A key that is present keeps its place and loses its old value. A
new key goes to the end. -/
def put : Entries α → String → α → Entries α
  | [], key, value => [(key, value)]
  | (k, v) :: rest, key, value =>
    if k == key then (k, value) :: rest else (k, v) :: put rest key value

/-- The pairs as writes, first to last. -/
def ofList (pairs : List (String × α)) : Entries α :=
  pairs.foldl (fun entries pair => entries.put pair.1 pair.2) []

/-! ## Reading what was written -/

@[simp] theorem get?_nil (key : String) : get? ([] : Entries α) key = none := rfl

theorem get?_cons (k : String) (v : α) (rest : Entries α) (key : String) :
    get? ((k, v) :: rest) key = if key == k then some v else get? rest key := by
  rw [get?, List.lookup_cons]
  cases key == k <;> rfl

/-- The value written is there afterwards. -/
@[simp] theorem get?_put_self (entries : Entries α) (key : String) (value : α) :
    (entries.put key value).get? key = some value := by
  induction entries with
  | nil => simp [put, get?_cons]
  | cons head rest ih =>
    obtain ⟨k, v⟩ := head
    by_cases h : k = key
    · subst h; simp [put, get?_cons]
    · have h' : ¬ key = k := fun e => h e.symm
      simpa [put, h, h', get?_cons] using ih

/-- Other keys keep their values. -/
theorem get?_put_of_ne (entries : Entries α) {key other : String} (value : α)
    (h : other ≠ key) : (entries.put key value).get? other = entries.get? other := by
  induction entries with
  | nil => simp [put, get?_cons, h]
  | cons head rest ih =>
    obtain ⟨k, v⟩ := head
    by_cases hk : k = key
    · subst hk; simp [put, get?_cons, h]
    · simp [put, hk, get?_cons, ih]

/-- A new key goes to the end. A key that is present moves nothing. -/
theorem keys_put (entries : Entries α) (key : String) (value : α) :
    (entries.put key value).keys =
      if entries.has key then entries.keys else entries.keys ++ [key] := by
  induction entries with
  | nil => simp [put, keys, has]
  | cons head rest ih =>
    obtain ⟨k, v⟩ := head
    by_cases hk : k = key
    · subst hk; simp [put, keys, has]
    · simp only [keys, has] at ih
      simp only [put, keys, has, beq_iff_eq, hk, if_false, List.map_cons, List.any_cons]
      rw [ih]
      by_cases hr : (rest.any fun x => x.1 == key) = true
      · simp [hr]
      · simp [hr, hk]

theorem has_iff (entries : Entries α) (key : String) :
    entries.has key = true ↔ key ∈ entries.keys := by
  simp [has, keys]

/-- Writing keeps the keys distinct. -/
theorem nodup_keys_put {entries : Entries α} (key : String) (value : α)
    (h : entries.keys.Nodup) : (entries.put key value).keys.Nodup := by
  rw [keys_put]
  split
  · exact h
  · next new =>
    rw [has_iff] at new
    refine List.nodup_append.2 ⟨h, by simp, ?_⟩
    intro a ha b hb same
    rw [List.mem_singleton.1 hb] at same
    exact new (same ▸ ha)

/-- No key is there twice. -/
theorem nodup_keys_ofList (pairs : List (String × α)) : (ofList pairs).keys.Nodup := by
  suffices h : ∀ entries : Entries α, entries.keys.Nodup →
      (pairs.foldl (fun entries pair => entries.put pair.1 pair.2) entries).keys.Nodup from
    h [] .nil
  induction pairs with
  | nil => exact fun _ h => h
  | cons pair rest ih => exact fun entries h => ih _ (nodup_keys_put _ _ h)

example : ofList [("b", 1), ("a", 2), ("b", 3)] = [("b", 3), ("a", 2)] := by decide

end Entries

end DesignTokens
