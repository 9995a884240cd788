import DesignTokens.Proofs.Json.Documents
import DesignTokens.Rendering.Document

/-!
# Places in a document

`Data.at?` follows a path through nested tables. What is placed at a path is found there
(`at?_place_self`), and a path that neither leads on from it nor leads up to it finds what it found
before (`at?_place_of_apart`). Placing keeps the keys of every table distinct (`isDocument_place`).
-/

namespace DesignTokens

/-- What stands at the end of a path through nested tables. -/
def Data.at? (value : Data) : List String → Option Data
  | [] => some value
  | key :: rest =>
    match value with
    | .table entries => (Entries.get? entries key).bind (·.at? rest)
    | _ => none

/-- Neither path leads on from the other. -/
def Apart (p q : List String) : Prop :=
  ¬ p <+: q ∧ ¬ q <+: p

theorem Apart.of_cons {key : String} {p q : List String} (apart : Apart (key :: p) (key :: q)) :
    Apart p q :=
  ⟨fun leads => apart.1 (List.cons_prefix_cons.2 ⟨rfl, leads⟩),
    fun leads => apart.2 (List.cons_prefix_cons.2 ⟨rfl, leads⟩)⟩

theorem Apart.exists_cons {p q : List String} (apart : Apart p q) :
    ∃ key rest, q = key :: rest := by
  cases q with
  | nil => exact absurd List.nil_prefix apart.2
  | cons key rest => exact ⟨key, rest, rfl⟩

theorem Data.at?_table_cons (entries : Entries Data) (key : String) (rest : List String) :
    (Data.table entries).at? (key :: rest) = (entries.get? key).bind (·.at? rest) := rfl

theorem Data.at?_put_self (table : Entries Data) (key : String) (value : Data)
    (rest : List String) :
    (Data.table (table.put key value)).at? (key :: rest) = value.at? rest := by
  rw [at?_table_cons, Entries.get?_put_self]
  rfl

theorem Data.at?_put_of_ne (table : Entries Data) {key other : String} (value : Data)
    (rest : List String) (different : other ≠ key) :
    (Data.table (table.put key value)).at? (other :: rest) =
      (Data.table table).at? (other :: rest) := by
  rw [at?_table_cons, at?_table_cons, Entries.get?_put_of_ne table value different]

theorem Data.at?_nest_self (path : List String) (value : Data) :
    (Data.nest path value).at? path = some value := by
  induction path with
  | nil => rfl
  | cons key rest ih =>
    show (Data.table [(key, Data.nest rest value)]).at? (key :: rest) = _
    rw [at?_table_cons, Entries.get?_cons, if_pos (beq_self_eq_true key)]
    exact ih

theorem Data.at?_nest_of_apart {path other : List String} (value : Data)
    (apart : Apart path other) : (Data.nest path value).at? other = none := by
  induction path generalizing other with
  | nil => exact absurd List.nil_prefix apart.1
  | cons key rest ih =>
    obtain ⟨first, behind, rfl⟩ := apart.exists_cons
    show (Data.table [(key, Data.nest rest value)]).at? (first :: behind) = none
    rw [at?_table_cons, Entries.get?_cons]
    split
    next same =>
      rw [beq_iff_eq.1 same] at apart
      exact ih apart.of_cons
    next => rfl

/-- No property has two values. -/
def Leaf.Distinct : Leaf → Prop
  | .text _ => True
  | .properties texts => texts.keys.Nodup

theorem Leaf.isDocument_data {leaf : Leaf} (distinct : leaf.Distinct) : IsDocument leaf.data := by
  cases leaf with
  | text s => exact .text s
  | properties texts =>
    refine .table ?_ fun entry there => ?_
    · unfold Entries.keys
      rw [List.map_map]
      exact distinct
    · obtain ⟨property, _, rfl⟩ := List.mem_map.1 there
      exact .text property.2

namespace Document

/-! ## What is found after placing -/

/-- A text that is placed is found at its path. -/
theorem at?_place_self (text : String) (rest path : List String) (table : Entries Data)
    (key : String) :
    (Data.table (place path (.text text) table key rest).1).at? (key :: rest) =
      some (.text text) := by
  induction rest generalizing path table key with
  | nil =>
    rw [place]
    · exact Data.at?_put_self _ _ _ _
    · nofun
  | cons next rest ih =>
    rw [place]
    split
    · exact (Data.at?_put_self _ _ _ _).trans (ih _ _ _)
    · exact (Data.at?_put_self _ _ _ _).trans (Data.at?_nest_self _ _)

/-- Placing writes one entry of the table. -/
theorem exists_place_eq_put (leaf : Leaf) (rest path : List String) (table : Entries Data)
    (key : String) : ∃ value, (place path leaf table key rest).1 = table.put key value := by
  cases rest with
  | nil =>
    unfold place
    split
    · exact ⟨_, rfl⟩
    · exact ⟨_, rfl⟩
  | cons next rest =>
    rw [place]
    split
    · exact ⟨_, rfl⟩
    · exact ⟨_, rfl⟩

/-- A path apart from that of a leaf finds what it found before the leaf was placed. -/
theorem at?_place_of_apart {leaf : Leaf} {rest other : List String} (path : List String)
    (table : Entries Data) {key : String} (apart : Apart (key :: rest) other) :
    (Data.table (place path leaf table key rest).1).at? other = (Data.table table).at? other := by
  induction rest generalizing path table key other with
  | nil =>
    obtain ⟨first, behind, rfl⟩ := apart.exists_cons
    have different : first ≠ key := by
      rintro rfl
      exact apart.1 (List.cons_prefix_cons.2 ⟨rfl, List.nil_prefix⟩)
    obtain ⟨value, same⟩ := exists_place_eq_put leaf [] path table key
    rw [same, Data.at?_put_of_ne _ _ _ different]
  | cons next rest ih =>
    obtain ⟨first, behind, rfl⟩ := apart.exists_cons
    by_cases different : first = key
    · subst different
      have apart := apart.of_cons
      obtain ⟨second, behind, rfl⟩ := apart.exists_cons
      rw [place]
      split
      next inner found =>
        refine (Data.at?_put_self _ _ _ _).trans ((ih _ _ apart).trans ?_)
        rw [Data.at?_table_cons table, found]
        rfl
      next found =>
        -- Whatever stood here was no table, so the path ended here before, as it does now.
        refine (Data.at?_put_self _ _ _ _).trans ((Data.at?_nest_of_apart _ apart).trans ?_)
        rw [Data.at?_table_cons table]
        cases there : table.get? first with
        | none => rfl
        | some value =>
          cases value with
          | table inner => exact absurd there (found inner)
          | _ => rfl
    · obtain ⟨value, same⟩ := exists_place_eq_put leaf (next :: rest) path table key
      rw [same, Data.at?_put_of_ne _ _ _ different]

/-! ## Keys stay distinct -/

theorem isDocument_put {table : Entries Data} {key : String} {value : Data}
    (document : IsDocument (.table table)) (inner : IsDocument value) :
    IsDocument (.table (table.put key value)) := by
  cases document with
  | table distinct documents =>
    refine .table (Entries.nodup_keys_put key value distinct) fun entry there => ?_
    rcases Entries.mem_put there with there | rfl
    · exact documents entry there
    · exact inner

theorem isDocument_of_get? {table : Entries Data} {key : String} {value : Data}
    (document : IsDocument (.table table)) (found : table.get? key = some value) :
    IsDocument value := by
  cases document with
  | table _ documents => exact documents _ (Entries.mem_of_get? found)

theorem isDocument_nest {path : List String} {value : Data} (document : IsDocument value) :
    IsDocument (Data.nest path value) := by
  induction path with
  | nil => exact document
  | cons key rest ih =>
    refine .table (List.nodup_cons.2 ⟨List.not_mem_nil, .nil⟩) fun entry there => ?_
    rw [List.mem_singleton.1 there]
    exact ih

theorem isDocument_addTexts {path : List String} {texts : List (String × String)}
    {table : Entries Data} (document : IsDocument (.table table)) :
    IsDocument (.table (addTexts path texts table).1) := by
  unfold addTexts
  refine List.foldlRecOn (motive := fun placed : Placed => IsDocument (.table placed.1)) texts _
    document ?_
  intro placed document text _
  exact isDocument_put document (.text text.2)

theorem isDocument_place {leaf : Leaf} (inner : IsDocument leaf.data) (rest path : List String)
    {table : Entries Data} (key : String) (document : IsDocument (.table table)) :
    IsDocument (.table (place path leaf table key rest).1) := by
  induction rest generalizing path table key with
  | nil =>
    unfold place
    split
    next inner texts found =>
      exact isDocument_put document (isDocument_addTexts (isDocument_of_get? document found))
    next => exact isDocument_put document inner
  | cons next rest ih =>
    rw [place]
    split
    next found => exact isDocument_put document (ih _ _ (isDocument_of_get? document found))
    next => exact isDocument_put document (isDocument_nest inner)

end Document

end DesignTokens
