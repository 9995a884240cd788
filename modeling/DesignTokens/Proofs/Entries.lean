import DesignTokens.Entries
import Mathlib.Data.List.Induction
import Mathlib.Data.List.Nodup

/-!
# What writes leave

Writes under distinct keys are kept as they are (`ofList_of_nodup`), and each can be read back
(`get?_of_mem`). Of several writes under one key the first gives the place (`keys_ofList`) and the
last gives the value (`get?_ofList_append`).
-/

namespace DesignTokens

/-! ## Names without repetitions -/

section Repetitions

variable {α : Type} [DecidableEq α]

theorem eraseDups_concat (items : List α) (item : α) :
    (items ++ [item]).eraseDups =
      if item ∈ items then items.eraseDups else items.eraseDups ++ [item] := by
  rw [List.eraseDups_append, List.removeAll]
  by_cases old : item ∈ items
  · simp [old]
  · simp [old, List.eraseDups_cons]

theorem length_eraseDups_le (items : List α) : items.eraseDups.length ≤ items.length := by
  induction items using List.reverseRecOn with
  | nil => exact Nat.le_refl 0
  | append_singleton items item ih =>
    rw [eraseDups_concat, List.length_append, List.length_singleton]
    split
    · exact Nat.le_succ_of_le ih
    · rw [List.length_append, List.length_singleton]
      exact Nat.succ_le_succ ih

/-- As many items are left as there were exactly when no item is repeated. -/
theorem length_eraseDups_eq_iff {items : List α} :
    items.eraseDups.length = items.length ↔ items.Nodup := by
  induction items using List.reverseRecOn with
  | nil => exact ⟨fun _ => .nil, fun _ => rfl⟩
  | append_singleton items item ih =>
    have distinct_iff := List.nodup_concat items item
    rw [List.concat_eq_append] at distinct_iff
    rw [eraseDups_concat, distinct_iff, List.length_append, List.length_singleton]
    split
    next old =>
      refine ⟨fun same => ?_, fun new => absurd old new.1⟩
      have fewer := length_eraseDups_le items
      omega
    next new =>
      rw [List.length_append, List.length_singleton, Nat.add_right_cancel_iff, ih]
      exact ⟨fun distinct => ⟨new, distinct⟩, fun distinct => distinct.2⟩

theorem nodup_eraseDups (items : List α) : items.eraseDups.Nodup := by
  induction items using List.reverseRecOn with
  | nil => exact .nil
  | append_singleton items item ih =>
    rw [eraseDups_concat]
    split
    next => exact ih
    next new =>
      rw [← List.concat_eq_append, List.nodup_concat, List.mem_eraseDups]
      exact ⟨new, ih⟩

theorem eraseDups_of_nodup {items : List α} (distinct : items.Nodup) : items.eraseDups = items := by
  induction items using List.reverseRecOn with
  | nil => rfl
  | append_singleton items item ih =>
    rw [← List.concat_eq_append, List.nodup_concat] at distinct
    rw [eraseDups_concat, if_neg distinct.1, ih distinct.2]

theorem eraseDups_eraseDups_append (first second : List α) :
    (first.eraseDups ++ second).eraseDups = (first ++ second).eraseDups := by
  induction second using List.reverseRecOn with
  | nil =>
    rw [List.append_nil, List.append_nil]
    exact eraseDups_of_nodup (nodup_eraseDups first)
  | append_singleton second item ih =>
    rw [← List.append_assoc, ← List.append_assoc, eraseDups_concat, eraseDups_concat, ih]
    simp only [List.mem_append, List.mem_eraseDups]

end Repetitions

namespace Entries

variable {α : Type} {entries : Entries α} {key : String} {value : α}

/-- A key is there exactly when it has a value. -/
theorem isSome_get? (entries : Entries α) (key : String) :
    (entries.get? key).isSome = entries.has key := by
  induction entries with
  | nil => rfl
  | cons head rest ih =>
    rw [get?_cons]
    show _ = (head.1 == key || has rest key)
    rw [Bool.beq_comm]
    split
    · next same =>
      rw [same]
      rfl
    · next other =>
      rw [Bool.not_eq_true] at other
      rw [other, Bool.false_or, ih]

theorem has_of_get? (found : entries.get? key = some value) : entries.has key = true := by
  rw [← isSome_get?, found]
  rfl

theorem get?_eq_none_iff : entries.get? key = none ↔ entries.has key = false := by
  rw [← Option.not_isSome_iff_eq_none, isSome_get?, Bool.not_eq_true]

theorem exists_get?_iff : (∃ value, entries.get? key = some value) ↔ entries.has key = true := by
  rw [← Option.isSome_iff_exists, isSome_get?]

theorem mem_of_get? (found : entries.get? key = some value) : (key, value) ∈ entries := by
  induction entries with
  | nil => cases found
  | cons head rest ih =>
    obtain ⟨k, v⟩ := head
    rw [get?_cons] at found
    split at found
    next same =>
      rw [beq_iff_eq.1 same, ← Option.some.inj found]
      exact List.mem_cons_self
    next => exact List.mem_cons_of_mem _ (ih found)

/-- Where keys are distinct, what is in the entries is what is read. -/
theorem get?_of_mem (distinct : entries.keys.Nodup) (there : (key, value) ∈ entries) :
    entries.get? key = some value := by
  induction entries with
  | nil => cases there
  | cons head rest ih =>
    obtain ⟨k, v⟩ := head
    obtain ⟨new, distinct⟩ := List.nodup_cons.1 distinct
    rw [get?_cons]
    rcases List.mem_cons.1 there with same | behind
    · cases same
      rw [if_pos (beq_self_eq_true key)]
    · have other : ¬ (key == k) = true := by
        intro same
        rw [← beq_iff_eq.1 same] at new
        exact new (List.mem_map.2 ⟨_, behind, rfl⟩)
      rw [if_neg other]
      exact ih distinct behind

theorem mem_put {entry : String × α} (there : entry ∈ entries.put key value) :
    entry ∈ entries ∨ entry = (key, value) := by
  induction entries with
  | nil => exact .inr (List.mem_singleton.1 there)
  | cons head rest ih =>
    obtain ⟨k, v⟩ := head
    rw [put] at there
    split at there
    next same =>
      rcases List.mem_cons.1 there with there | there
      · rw [beq_iff_eq.1 same] at there
        exact .inr there
      · exact .inl (List.mem_cons_of_mem _ there)
    next =>
      rcases List.mem_cons.1 there with there | there
      · exact .inl (there ▸ List.mem_cons_self)
      · exact (ih there).imp_left (List.mem_cons_of_mem _)

theorem put_of_not_mem (new : key ∉ entries.keys) :
    entries.put key value = entries ++ [(key, value)] := by
  induction entries with
  | nil => rfl
  | cons head rest ih =>
    obtain ⟨k, v⟩ := head
    have other : ¬ k = key := fun same => new (same ▸ List.mem_cons_self)
    have behind : key ∉ keys rest := fun there => new (List.mem_cons_of_mem _ there)
    rw [put, if_neg (by simpa using other), ih behind]
    rfl

theorem foldl_put_of_nodup (first : Entries α) (distinct : (first ++ entries).keys.Nodup) :
    entries.foldl (fun entries pair => entries.put pair.1 pair.2) first = first ++ entries := by
  induction entries generalizing first with
  | nil => exact (List.append_nil first).symm
  | cons head rest ih =>
    have new : head.1 ∉ first.keys := by
      intro there
      rw [keys, List.map_append, List.nodup_append] at distinct
      exact distinct.2.2 _ there _ List.mem_cons_self rfl
    rw [List.foldl_cons, put_of_not_mem new, ih]
    · exact List.append_assoc first [head] rest
    · rwa [List.append_assoc]

/-- Writes under distinct keys are kept in their order. -/
theorem ofList_of_nodup (distinct : entries.keys.Nodup) : ofList entries = entries :=
  foldl_put_of_nodup [] distinct

/-! ## Writes under any keys -/

theorem keys_put_of_nodup (distinct : entries.keys.Nodup) (key : String) (value : α) :
    (entries.put key value).keys = (entries.keys ++ [key]).eraseDups := by
  rw [keys_put, eraseDups_concat, eraseDups_of_nodup distinct]
  simp only [has_iff]

theorem ofList_concat (pairs : List (String × α)) (pair : String × α) :
    ofList (pairs ++ [pair]) = (ofList pairs).put pair.1 pair.2 :=
  List.foldl_append

/-- What is in a table that has been made of some pairs is in the pairs. -/
theorem mem_ofList {pairs : List (String × α)} {entry : String × α}
    (there : entry ∈ ofList pairs) : entry ∈ pairs := by
  induction pairs using List.reverseRecOn with
  | nil => exact absurd there List.not_mem_nil
  | append_singleton pairs pair ih =>
    rw [ofList_concat] at there
    rcases mem_put there with there | rfl
    · exact List.mem_append_left _ (ih there)
    · exact List.mem_append_right _ List.mem_cons_self

/-- Keys are in the order of their first writes. -/
theorem keys_ofList (pairs : List (String × α)) : (ofList pairs).keys = (keys pairs).eraseDups := by
  induction pairs using List.reverseRecOn with
  | nil => rfl
  | append_singleton pairs pair ih =>
    have known : (ofList pairs).has pair.1 = true ↔ pair.1 ∈ keys pairs := by
      rw [has_iff, ih, List.mem_eraseDups]
    rw [ofList_concat, keys_put, ih, show keys (pairs ++ [pair]) = keys pairs ++ [pair.1] from
      List.map_append, eraseDups_concat]
    simp only [known]

/-- The last write under a key gives its value. -/
theorem get?_ofList_append (before : List (String × α)) {after : List (String × α)}
    (last : key ∉ keys after) :
    (ofList (before ++ (key, value) :: after)).get? key = some value := by
  induction after using List.reverseRecOn with
  | nil => rw [ofList_concat, get?_put_self]
  | append_singleton after pair ih =>
    have other : key ≠ pair.1 ∧ key ∉ keys after := by
      rw [show keys (after ++ [pair]) = keys after ++ [pair.1] from List.map_append] at last
      exact ⟨fun same => last (same ▸ List.mem_append_right _ List.mem_cons_self),
        fun there => last (List.mem_append_left _ there)⟩
    rw [← List.cons_append, ← List.append_assoc, ofList_concat, get?_put_of_ne _ _ other.1,
      ih other.2]

end Entries

end DesignTokens
