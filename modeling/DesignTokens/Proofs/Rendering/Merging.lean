import DesignTokens.Proofs.Rendering.Placement

/-!
# What placing changes

A leaf decides what stands at some places: at those on the way to it, at its own, and below it
(`puts`). What it puts there is found there, and every other place keeps what stood there
(`markAt?_place`). A warning is left exactly when a text meets something that stands there already,
or something meets a text (`warnings_place_eq_nil`). Without a warning no key is lost, and new keys
come behind those that were there (`keysAt_place`).
-/

namespace DesignTokens

/-- What stands at a place, without what is inside of it. -/
inductive Mark where
  | text (s : String)
  | table
  | other
  deriving DecidableEq

namespace Data

def mark : Data → Mark
  | .text s => .text s
  | .table _ => .table
  | _ => .other

def markAt? (value : Data) (spot : List String) : Option Mark :=
  (value.at? spot).map (·.mark)

/-- The keys of the table at a place. Where no table is, there are none. -/
def keysAt (value : Data) (spot : List String) : List String :=
  match value.at? spot with
  | some (.table entries) => Entries.keys entries
  | _ => []

theorem exists_table_of_mark {value : Data} (isTable : value.mark = .table) :
    ∃ entries, value = .table entries := by
  cases value <;> cases isTable
  exact ⟨_, rfl⟩

theorem at?_eq_text_iff {value : Data} {spot : List String} {s : String} :
    value.at? spot = some (.text s) ↔ value.markAt? spot = some (.text s) := by
  unfold markAt?
  rw [Option.map_eq_some_iff]
  constructor
  · exact fun found => ⟨_, found, rfl⟩
  · rintro ⟨inner, found, isText⟩
    cases inner <;> cases isText
    exact found

end Data

namespace Document

variable {leaf : Leaf} {table inner : Entries Data} {texts : Entries String}
  {path spot rest : List String} {key other next : String}

/-! ## What a leaf puts where -/

/-- What a text puts at its own place and below: itself, and nothing. -/
def textPuts (s : String) : List String → Option Mark
  | [] => some (.text s)
  | _ :: _ => none

/-- What a leaf at a path puts at a place. It leaves places apart from its own as they are. -/
def puts (leaf : Leaf) : (path spot : List String) → Option (Option Mark)
  | [], spot =>
    match leaf, spot with
    | .text s, spot => some (textPuts s spot)
    | .properties _, [] => some (some .table)
    | .properties texts, key :: rest => (texts.get? key).map (textPuts · rest)
  | _ :: _, [] => some (some .table)
  | key :: path, other :: spot => if other = key then puts leaf path spot else none

/-- The keys that a leaf at a path puts into the table at a place. -/
def keysPut (leaf : Leaf) : (path spot : List String) → List String
  | [], spot =>
    match leaf, spot with
    | .properties texts, [] => texts.keys
    | _, _ => []
  | key :: _, [] => [key]
  | key :: path, other :: spot => if other = key then keysPut leaf path spot else []

/-! ## Tables inside tables -/

/-- The table at a key, or the empty table. -/
def innerOf (table : Entries Data) (key : String) : Entries Data :=
  match table.get? key with
  | some (.table inner) => inner
  | _ => []

theorem innerOf_of_table (found : table.get? key = some (.table inner)) :
    innerOf table key = inner := by
  unfold innerOf
  rw [found]

theorem innerOf_of_no_table (none : ∀ inner, table.get? key = some (.table inner) → False) :
    innerOf table key = [] := by
  unfold innerOf
  split
  next inner found => exact absurd found (none inner)
  next => rfl

/-- Nothing but a table is at the key. -/
def Admits (table : Entries Data) (key : String) : Prop :=
  ∀ value, table.get? key = some value → value.mark = .table

theorem at?_below : (Data.table table).at? (key :: next :: rest) =
    (Data.table (innerOf table key)).at? (next :: rest) := by
  rw [Data.at?_table_cons]
  unfold innerOf
  cases table.get? key with
  | none => rfl
  | some value => cases value <;> rfl

theorem keysAt_below (table : Entries Data) (key : String) (spot : List String) :
    (Data.table table).keysAt (key :: spot) = (Data.table (innerOf table key)).keysAt spot := by
  unfold Data.keysAt
  cases spot with
  | nil =>
    rw [Data.at?_table_cons]
    unfold innerOf
    cases table.get? key with
    | none => rfl
    | some value => cases value <;> rfl
  | cons next rest => rw [at?_below]

/-- Writing at a key leaves no warning exactly when nothing is there. -/
theorem overwrite_eq_nil {value : Data} :
    (overwrite path key value table).2 = [] ↔ table.get? key = none := by
  rw [Entries.get?_eq_none_iff]
  unfold overwrite
  cases table.has key <;> simp

/-! ## The texts of a bundle -/

theorem addTexts_cons (path : List String) (key value : String) (texts : List (String × String))
    (table : Entries Data) :
    addTexts path ((key, value) :: texts) table =
      ((addTexts path texts (table.put key (.text value))).1,
        (overwrite path key (.text value) table).2 ++
          (addTexts path texts (table.put key (.text value))).2) := by
  let write (placed : Placed) (text : String × String) : Placed :=
    ((overwrite path text.1 (.text text.2) placed.1).1,
      placed.2 ++ (overwrite path text.1 (.text text.2) placed.1).2)
  -- Warnings that were left before stay in front.
  have before : ∀ (texts : List (String × String)) (table : Entries Data)
      (warnings : List Warning), texts.foldl write (table, warnings) =
        ((texts.foldl write (table, [])).1, warnings ++ (texts.foldl write (table, [])).2) := by
    intro texts
    induction texts with
    | nil => exact fun table warnings => Prod.ext rfl (List.append_nil warnings).symm
    | cons text texts ih =>
      intro table warnings
      rw [List.foldl_cons, List.foldl_cons, ih, ih _ ([] ++ _), List.nil_append, List.append_assoc]
  exact before texts _ _

theorem get?_addTexts (distinct : texts.keys.Nodup) (path : List String) (table : Entries Data)
    (key : String) :
    (addTexts path texts table).1.get? key =
      match texts.get? key with
      | some value => some (.text value)
      | none => table.get? key := by
  induction texts generalizing table with
  | nil => rfl
  | cons text texts ih =>
    obtain ⟨first, value⟩ := text
    obtain ⟨new, distinct⟩ := List.nodup_cons.1 distinct
    rw [addTexts_cons, ih distinct, Entries.get?_cons]
    by_cases same : key = first
    · subst same
      have none : Entries.get? texts key = none := by
        rw [Entries.get?_eq_none_iff, ← Bool.not_eq_true, Entries.has_iff]
        exact new
      rw [none, if_pos (beq_self_eq_true key)]
      exact Entries.get?_put_self _ _ _
    · rw [if_neg (by simpa using same), Entries.get?_put_of_ne _ _ same]

theorem keys_addTexts (path : List String) (texts : List (String × String))
    (distinct : table.keys.Nodup) :
    (addTexts path texts table).1.keys = (table.keys ++ Entries.keys texts).eraseDups := by
  induction texts generalizing table with
  | nil =>
    show table.keys = (table.keys ++ []).eraseDups
    rw [List.append_nil, eraseDups_of_nodup distinct]
  | cons text texts ih =>
    obtain ⟨key, value⟩ := text
    rw [addTexts_cons, ih (Entries.nodup_keys_put _ _ distinct),
      Entries.keys_put_of_nodup distinct, eraseDups_eraseDups_append, List.append_assoc]
    rfl

/-- Texts leave no warning when all their keys are new. -/
theorem warnings_addTexts_eq_nil (distinct : texts.keys.Nodup) :
    (addTexts path texts table).2 = [] ↔ ∀ key ∈ texts.keys, table.has key = false := by
  induction texts generalizing table with
  | nil => exact ⟨fun _ _ there => absurd there List.not_mem_nil, fun _ => rfl⟩
  | cons text texts ih =>
    obtain ⟨first, value⟩ := text
    obtain ⟨new, distinct⟩ := List.nodup_cons.1 distinct
    have here : (overwrite path first (.text value) table).2 = [] ↔ table.has first = false :=
      overwrite_eq_nil.trans Entries.get?_eq_none_iff
    have behind : ∀ key ∈ Entries.keys texts,
        (table.put first (.text value)).has key = table.has key := by
      intro key there
      have other : key ≠ first := fun same => new (same ▸ there)
      rw [← Entries.isSome_get?, Entries.get?_put_of_ne _ _ other, Entries.isSome_get?]
    rw [addTexts_cons, List.append_eq_nil_iff, here, ih distinct]
    show _ ↔ ∀ key ∈ first :: Entries.keys texts, table.has key = false
    rw [List.forall_mem_cons]
    exact and_congr_right fun _ => forall₂_congr fun key there => by rw [behind key there]

/-! ## One step of a path -/

/-- A leaf inside new tables is a leaf that is put into an empty table. -/
theorem nest_eq (leaf : Leaf) (path : List String) (next : String) (rest : List String) :
    Data.nest (next :: rest) leaf.data = .table (place path leaf [] next rest).1 := by
  cases rest with
  | nil => cases leaf <;> rfl
  | cons => rfl

/-- Nothing is lost where nothing was. -/
theorem warnings_place_nil (leaf : Leaf) (path : List String) (key : String) (rest : List String) :
    (place path leaf [] key rest).2 = [] := by
  cases rest with
  | nil => cases leaf <;> rfl
  | cons => rfl

theorem place_text (path : List String) (s : String) (table : Entries Data) (key : String) :
    place path (.text s) table key [] = overwrite path key (.text s) table := by
  rw [place]
  · rfl
  · intro inner texts _ same
    cases same

theorem place_cons (leaf : Leaf) (path : List String) (table : Entries Data) (key next : String)
    (rest : List String) :
    (place path leaf table key (next :: rest)).1 =
      table.put key (.table (place (path ++ [key]) leaf (innerOf table key) next rest).1) := by
  rw [place]
  split
  next inner found => rw [innerOf_of_table found]
  next none =>
    rw [innerOf_of_no_table none, nest_eq leaf (path ++ [key])]
    rfl

/-- A bundle at new tables is a bundle whose texts are added to an empty table. -/
theorem data_eq (distinct : texts.keys.Nodup) (path : List String) :
    (Leaf.properties texts).data = .table (addTexts path texts []).1 := by
  suffices added : ∀ first : Entries Data, (first.keys ++ texts.keys).Nodup →
      (addTexts path texts first).1 = first ++ texts.map fun text => (text.1, .text text.2) from
    congrArg Data.table (added [] distinct).symm
  clear distinct
  induction texts with
  | nil => exact fun first _ => (List.append_nil first).symm
  | cons text texts ih =>
    obtain ⟨key, value⟩ := text
    intro first distinct
    have new : key ∉ first.keys := fun there =>
      (List.nodup_append.1 distinct).2.2 _ there _ List.mem_cons_self rfl
    have keys : (first ++ [(key, Data.text value)]).keys = first.keys ++ [key] := List.map_append
    rw [addTexts_cons, Entries.put_of_not_mem new, ih]
    · exact List.append_assoc _ _ _
    · rw [keys, List.append_assoc]
      exact distinct

theorem place_properties (distinct : texts.keys.Nodup) (path : List String) (table : Entries Data)
    (key : String) :
    (place path (.properties texts) table key []).1 =
      table.put key (.table (addTexts (path ++ [key]) texts (innerOf table key)).1) := by
  unfold place
  split
  next inner texts' found same =>
    cases same
    rw [innerOf_of_table found]
  next none =>
    rw [innerOf_of_no_table fun inner found => none inner texts found rfl,
      data_eq distinct (path ++ [key])]
    rfl

/-- Writing over what is there is admitted as long as no table is there. -/
theorem overwrite_eq_nil_iff_admits {value : Data}
    (none : ∀ inner, table.get? key = some (.table inner) → False) :
    (overwrite path key value table).2 = [] ↔ Admits table key := by
  rw [overwrite_eq_nil]
  constructor
  · intro missing value found
    cases missing.symm.trans found
  · intro admits
    cases there : table.get? key with
    | none => rfl
    | some value =>
      obtain ⟨inner, rfl⟩ := Data.exists_table_of_mark (admits value there)
      exact absurd there (none inner)

theorem admits_of_table (found : table.get? key = some (.table inner)) : Admits table key := by
  intro value there
  cases found.symm.trans there
  rfl

theorem warnings_place_properties (distinct : texts.keys.Nodup) :
    (place path (.properties texts) table key []).2 = [] ↔
      Admits table key ∧ ∀ name ∈ texts.keys, (innerOf table key).has name = false := by
  unfold place
  split
  next inner texts' found same =>
    cases same
    rw [innerOf_of_table found, ← warnings_addTexts_eq_nil distinct]
    exact (and_iff_right (admits_of_table found)).symm
  next none =>
    have none := fun inner found => none inner texts found rfl
    rw [overwrite_eq_nil_iff_admits none, innerOf_of_no_table none]
    exact (and_iff_left fun _ _ => rfl).symm

theorem warnings_place_cons :
    (place path leaf table key (next :: rest)).2 = [] ↔
      Admits table key ∧ (place (path ++ [key]) leaf (innerOf table key) next rest).2 = [] := by
  rw [place]
  split
  next inner found =>
    rw [innerOf_of_table found]
    exact (and_iff_right (admits_of_table found)).symm
  next none =>
    rw [overwrite_eq_nil_iff_admits none, innerOf_of_no_table none]
    exact (and_iff_left (warnings_place_nil _ _ _ _)).symm

/-! ## What is found after placing -/

theorem markAt?_below : (Data.table table).markAt? (key :: next :: rest) =
    (Data.table (innerOf table key)).markAt? (next :: rest) := by
  unfold Data.markAt?
  rw [at?_below]

theorem markAt?_table_cons (table : Entries Data) (key : String) (spot : List String) :
    (Data.table table).markAt? (key :: spot) = (table.get? key).bind (·.markAt? spot) := by
  unfold Data.markAt?
  rw [Data.at?_table_cons]
  cases table.get? key <;> rfl

theorem markAt?_put_self (table : Entries Data) (key : String) (value : Data)
    (spot : List String) :
    (Data.table (table.put key value)).markAt? (key :: spot) = value.markAt? spot := by
  unfold Data.markAt?
  rw [Data.at?_put_self]

theorem markAt?_text (s : String) (spot : List String) :
    (Data.text s).markAt? spot = textPuts s spot := by
  cases spot <;> rfl

theorem at?_place_of_ne (path rest : List String) (table : Entries Data) (spot : List String)
    (different : other ≠ key) :
    (Data.table (place path leaf table key rest).1).at? (other :: spot) =
      (Data.table table).at? (other :: spot) := by
  obtain ⟨value, same⟩ := exists_place_eq_put leaf rest path table key
  rw [same, Data.at?_put_of_ne _ _ _ different]

theorem markAt?_place_of_ne (path rest : List String) (table : Entries Data) (spot : List String)
    (different : other ≠ key) :
    (Data.table (place path leaf table key rest).1).markAt? (other :: spot) =
      (puts leaf (key :: rest) (other :: spot)).getD
        ((Data.table table).markAt? (other :: spot)) := by
  rw [puts, if_neg different]
  exact congrArg (·.map Data.mark) (at?_place_of_ne path rest table spot different)

/-- What a leaf puts somewhere is found there, and all else is as it was. -/
theorem markAt?_place (distinct : leaf.Distinct) (path rest spot : List String)
    (table : Entries Data) (key : String) :
    (Data.table (place path leaf table key rest).1).markAt? spot =
      (puts leaf (key :: rest) spot).getD ((Data.table table).markAt? spot) := by
  induction rest generalizing path table key spot with
  | nil =>
    cases spot with
    | nil => rfl
    | cons other spot =>
    by_cases same : other = key
    · subst same
      rw [puts, if_pos rfl]
      cases leaf with
      | text s =>
        rw [place_text]
        exact (markAt?_put_self _ _ _ _).trans (markAt?_text s spot)
      | properties texts =>
        rw [place_properties distinct, markAt?_put_self]
        cases spot with
        | nil => rfl
        | cons name spot =>
          rw [markAt?_table_cons, get?_addTexts distinct, markAt?_below, markAt?_table_cons]
          show _ = ((texts.get? name).map (textPuts · spot)).getD _
          cases texts.get? name with
          | some value => exact markAt?_text value spot
          | none => rfl
    · exact markAt?_place_of_ne path [] table spot same
  | cons next rest ih =>
    cases spot with
    | nil => rfl
    | cons other spot =>
    by_cases same : other = key
    · subst same
      rw [puts, if_pos rfl, place_cons, markAt?_put_self, ih]
      cases spot with
      | nil => rfl
      | cons name spot => rw [markAt?_below]
    · exact markAt?_place_of_ne path (next :: rest) table spot same

/-! ## When something is lost -/

/-- Two things stand at one place without loss when both are tables. -/
def Merges (mark mark' : Mark) : Prop :=
  mark = .table ∧ mark' = .table

theorem Merges.symm {mark mark' : Mark} (merges : Merges mark mark') : Merges mark' mark :=
  And.symm merges

/-- All that a leaf at a path puts somewhere merges with what stands there. -/
def MergesWith (leaf : Leaf) (path : List String) (stands : List String → Option Mark) : Prop :=
  ∀ spot mark mark', puts leaf path spot = some (some mark) → stands spot = some mark' →
    Merges mark mark'

section Merging

variable {stands : List String → Option Mark}

theorem mergesWith_cons : MergesWith leaf (key :: path) stands ↔
    (∀ mark, stands [] = some mark → mark = .table) ∧
      MergesWith leaf path fun spot => stands (key :: spot) := by
  constructor
  · intro merges
    refine ⟨fun mark here => (merges [] _ mark rfl here).2, fun spot mark mark' put here => ?_⟩
    exact merges (key :: spot) mark mark' (by rwa [puts, if_pos rfl]) here
  · rintro ⟨top, merges⟩ spot mark mark' put here
    cases spot with
    | nil =>
      cases put
      exact ⟨rfl, top mark' here⟩
    | cons other spot =>
      rw [puts] at put
      split at put
      next same =>
        subst same
        exact merges spot mark mark' put here
      next => cases put

theorem mergesWith_text {s : String} : MergesWith (.text s) [] stands ↔ stands [] = none := by
  constructor
  · intro merges
    cases here : stands [] with
    | none => rfl
    | some mark => cases (merges [] _ mark rfl here).1
  · intro none spot mark mark' put here
    cases spot with
    | nil => cases none.symm.trans here
    | cons => cases put

theorem mergesWith_properties : MergesWith (.properties texts) [] stands ↔
    (∀ mark, stands [] = some mark → mark = .table) ∧ ∀ key ∈ texts.keys, stands [key] = none := by
  constructor
  · intro merges
    refine ⟨fun mark here => (merges [] _ mark rfl here).2, fun key there => ?_⟩
    cases here : stands [key] with
    | none => rfl
    | some mark =>
      obtain ⟨text, found⟩ := Entries.exists_get?_iff.2 ((Entries.has_iff _ _).2 there)
      have put : puts (.properties texts) [] [key] = some (some (.text text)) := by
        show (texts.get? key).map (textPuts · []) = _
        rw [found]
        rfl
      cases (merges [key] _ mark put here).1
  · rintro ⟨top, none⟩ spot mark mark' put here
    cases spot with
    | nil =>
      cases put
      exact ⟨rfl, top mark' here⟩
    | cons key spot =>
      obtain ⟨text, found, put⟩ := Option.map_eq_some_iff.1 put
      have there : key ∈ texts.keys := (Entries.has_iff _ _).1 (Entries.has_of_get? found)
      cases spot with
      | nil => cases (none key there).symm.trans here
      | cons => cases put

end Merging

theorem markAt?_single : (Data.table table).markAt? [key] = (table.get? key).map (·.mark) := by
  rw [markAt?_table_cons]
  cases table.get? key <;> rfl

theorem admits_iff : Admits table key ↔
    ∀ mark, (Data.table table).markAt? [key] = some mark → mark = .table := by
  rw [markAt?_single]
  unfold Admits
  constructor
  · intro admits mark stands
    obtain ⟨value, there, rfl⟩ := Option.map_eq_some_iff.1 stands
    exact admits value there
  · intro admits value there
    exact admits _ (by rw [there]; rfl)

/-- A leaf is placed without a warning exactly when it merges with all that is there. -/
theorem warnings_place_eq_nil (distinct : leaf.Distinct) :
    (place path leaf table key rest).2 = [] ↔
      MergesWith leaf (key :: rest) (Data.table table).markAt? := by
  have top : ∀ (table : Entries Data) mark,
      (Data.table table).markAt? [] = some mark → mark = .table := by
    rintro table _ ⟨⟩
    rfl
  rw [mergesWith_cons, and_iff_right (top table)]
  induction rest generalizing path table key with
  | nil =>
    cases leaf with
    | text s =>
      rw [place_text, overwrite_eq_nil, mergesWith_text, markAt?_single, Option.map_eq_none_iff]
    | properties texts =>
      rw [warnings_place_properties distinct, mergesWith_properties, ← admits_iff]
      refine and_congr_right fun _ => forall₂_congr fun name _ => ?_
      rw [markAt?_below, markAt?_single, Option.map_eq_none_iff, Entries.get?_eq_none_iff]
  | cons next rest ih =>
    have below : (fun spot => (Data.table table).markAt? (key :: next :: spot)) =
        fun spot => (Data.table (innerOf table key)).markAt? (next :: spot) :=
      funext fun spot => markAt?_below
    rw [warnings_place_cons, mergesWith_cons, ← admits_iff, below]
    exact and_congr_right fun _ => ih

/-- Every warning is that a key is defined twice. -/
theorem exists_of_mem_warnings_place {warning : Warning}
    (left : warning ∈ (place path leaf table key rest).2) :
    ∃ path, warning = .keyDefinedTwice path := by
  have overwritten : ∀ {path key value} {table : Entries Data},
      warning ∈ (overwrite path key value table).2 → ∃ path, warning = .keyDefinedTwice path := by
    intro path key value table left
    unfold overwrite at left
    split at left
    · exact ⟨_, List.mem_singleton.1 left⟩
    · exact absurd left List.not_mem_nil
  have added : ∀ {path texts} {table : Entries Data},
      warning ∈ (addTexts path texts table).2 → ∃ path, warning = .keyDefinedTwice path := by
    intro path texts
    induction texts with
    | nil => exact fun left => absurd left List.not_mem_nil
    | cons text texts ih =>
      intro table left
      rw [addTexts_cons] at left
      exact (List.mem_append.1 left).elim overwritten ih
  induction rest generalizing path table key with
  | nil =>
    unfold place at left
    split at left
    · exact added left
    · exact overwritten left
  | cons next rest ih =>
    rw [place] at left
    split at left
    · exact ih left
    · exact overwritten left

/-! ## The order of keys -/

theorem keysAt_text (s : String) (spot : List String) : (Data.text s).keysAt spot = [] := by
  cases spot <;> rfl

theorem keysAt_table_cons (table : Entries Data) (key : String) (spot : List String) :
    (Data.table table).keysAt (key :: spot) =
      match table.get? key with
      | some value => value.keysAt spot
      | none => [] := by
  unfold Data.keysAt
  rw [Data.at?_table_cons]
  cases table.get? key <;> rfl

theorem isDocument_innerOf (document : IsDocument (.table table)) :
    IsDocument (.table (innerOf table key)) := by
  unfold innerOf
  split
  next inner found => exact isDocument_of_get? document found
  next => exact .table .nil fun _ there => absurd there List.not_mem_nil

theorem nodup_keys_of_isDocument (document : IsDocument (.table table)) : table.keys.Nodup := by
  cases document with
  | table distinct => exact distinct

/-- Keys in a document are distinct. -/
theorem nodup_keysAt (document : IsDocument (.table table)) (spot : List String) :
    ((Data.table table).keysAt spot).Nodup := by
  induction spot generalizing table with
  | nil => exact nodup_keys_of_isDocument document
  | cons key spot ih =>
    rw [keysAt_below]
    exact ih (isDocument_innerOf document)

theorem keysAt_put_self (table : Entries Data) (key : String) (value : Data)
    (spot : List String) :
    (Data.table (table.put key value)).keysAt (key :: spot) = value.keysAt spot := by
  unfold Data.keysAt
  rw [Data.at?_put_self]

/-- The texts of a bundle come behind the keys that are there. -/
theorem keysAt_addTexts (distinct : texts.keys.Nodup) (path spot : List String)
    (document : IsDocument (.table table)) (new : ∀ name ∈ texts.keys, table.has name = false) :
    (Data.table (addTexts path texts table).1).keysAt spot =
      ((Data.table table).keysAt spot ++ keysPut (.properties texts) [] spot).eraseDups := by
  cases spot with
  | nil => exact keys_addTexts path texts (nodup_keys_of_isDocument document)
  | cons name spot =>
    show _ = ((Data.table table).keysAt (name :: spot) ++ []).eraseDups
    rw [List.append_nil, eraseDups_of_nodup (nodup_keysAt document _), keysAt_table_cons,
      keysAt_table_cons, get?_addTexts distinct]
    cases found : texts.get? name with
    | none => rfl
    | some value =>
      have there : name ∈ texts.keys := (Entries.has_iff _ _).1 (Entries.has_of_get? found)
      rw [Entries.get?_eq_none_iff.2 (new name there)]
      exact keysAt_text value spot

theorem keysAt_place_top (path rest : List String) (document : IsDocument (.table table)) :
    (Data.table (place path leaf table key rest).1).keysAt [] =
      ((Data.table table).keysAt [] ++ keysPut leaf (key :: rest) []).eraseDups := by
  obtain ⟨value, same⟩ := exists_place_eq_put leaf rest path table key
  rw [same]
  exact Entries.keys_put_of_nodup (nodup_keys_of_isDocument document) key value

theorem keysAt_place_of_ne (path rest spot : List String) (document : IsDocument (.table table))
    (different : other ≠ key) :
    (Data.table (place path leaf table key rest).1).keysAt (other :: spot) =
      ((Data.table table).keysAt (other :: spot) ++
        keysPut leaf (key :: rest) (other :: spot)).eraseDups := by
  rw [keysPut, if_neg different, List.append_nil, eraseDups_of_nodup (nodup_keysAt document _)]
  unfold Data.keysAt
  rw [at?_place_of_ne path rest table spot different]

/-- A leaf that is placed without a warning puts its keys behind those that are there. -/
theorem keysAt_place (distinct : leaf.Distinct) {path rest : List String} (spot : List String)
    (document : IsDocument (.table table)) (clean : (place path leaf table key rest).2 = []) :
    (Data.table (place path leaf table key rest).1).keysAt spot =
      ((Data.table table).keysAt spot ++ keysPut leaf (key :: rest) spot).eraseDups := by
  induction rest generalizing path table key spot with
  | nil =>
    cases spot with
    | nil => exact keysAt_place_top path [] document
    | cons other spot =>
    by_cases same : other = key
    · subst same
      rw [keysPut, if_pos rfl]
      cases leaf with
      | text s =>
        rw [place_text, overwrite_eq_nil] at clean
        rw [place_text, keysAt_table_cons table, clean]
        exact (keysAt_put_self _ _ _ _).trans (keysAt_text s spot)
      | properties texts =>
        rw [warnings_place_properties distinct] at clean
        rw [place_properties distinct, keysAt_put_self, keysAt_below]
        exact keysAt_addTexts distinct _ spot (isDocument_innerOf document) clean.2
    · exact keysAt_place_of_ne path [] spot document same
  | cons next rest ih =>
    cases spot with
    | nil => exact keysAt_place_top path (next :: rest) document
    | cons other spot =>
    by_cases same : other = key
    · subst same
      rw [warnings_place_cons] at clean
      rw [keysPut, if_pos rfl, place_cons, keysAt_put_self, keysAt_below]
      exact ih spot (isDocument_innerOf document) clean.2
    · exact keysAt_place_of_ne path (next :: rest) spot document same

end Document

end DesignTokens
