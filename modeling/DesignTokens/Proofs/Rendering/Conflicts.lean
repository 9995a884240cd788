import DesignTokens.Proofs.Rendering.Documents
import DesignTokens.Proofs.Rendering.Merging
import DesignTokens.Proofs.Resolution.Warnings

/-!
# Conflicts in a document

Two additions to a document conflict when one puts a text where the other puts a text or needs a
table. A document warns that a key is defined twice exactly when two of its additions conflict.
Without a conflict its texts are those of all additions, with the keys of every table in the order
of their first arrival, and in any case the texts of an addition stay unless a later one conflicts
with it (`document_loses_nothing_silently`).
-/

namespace DesignTokens

/-- The texts of a leaf at a path, each with its own path. -/
def Leaf.textsAt (path : List String) : Leaf → List (List String × String)
  | .text s => [(path, s)]
  | .properties texts => texts.map fun (key, value) => (path ++ [key], value)

namespace Document

/-! ## Texts and tables -/

variable {spot : List String}

theorem textsAt_cons (leaf : Leaf) (key : String) (path : List String) :
    leaf.textsAt (key :: path) = (leaf.textsAt path).map fun text => (key :: text.1, text.2) := by
  cases leaf with
  | text s => rfl
  | properties texts =>
    unfold Leaf.textsAt
    rw [List.map_map]
    rfl

theorem textPuts_eq_some {s : String} {mark : Mark} :
    textPuts s spot = some mark ↔ spot = [] ∧ mark = .text s := by
  cases spot with
  | nil => simp [textPuts, eq_comm]
  | cons => simp [textPuts]

theorem puts_eq_text {leaf : Leaf} (distinct : leaf.Distinct) {path : List String}
    {value : String} :
    puts leaf path spot = some (some (.text value)) ↔ (spot, value) ∈ leaf.textsAt path := by
  induction path generalizing spot with
  | nil =>
    cases leaf with
    | text s =>
      show some (textPuts s spot) = _ ↔ (spot, value) ∈ [([], s)]
      rw [Option.some_inj, textPuts_eq_some, List.mem_singleton, Prod.mk.injEq, Mark.text.injEq]
    | properties texts =>
      cases spot with
      | nil => simp [puts, Leaf.textsAt]
      | cons key rest =>
        show (texts.get? key).map (textPuts · rest) = _ ↔
          (key :: rest, value) ∈ texts.map fun text => ([] ++ [text.1], text.2)
        rw [Option.map_eq_some_iff, List.mem_map]
        constructor
        · rintro ⟨text, found, put⟩
          obtain ⟨rfl, same⟩ := textPuts_eq_some.1 put
          cases same
          exact ⟨_, Entries.mem_of_get? found, rfl⟩
        · rintro ⟨⟨key, text⟩, there, same⟩
          cases same
          exact ⟨_, Entries.get?_of_mem distinct there, rfl⟩
  | cons key path ih =>
    rw [textsAt_cons, List.mem_map]
    cases spot with
    | nil =>
      constructor
      · intro put
        cases put
      · rintro ⟨_, _, same⟩
        cases same
    | cons other spot =>
      rw [puts]
      constructor
      · intro put
        split at put
        next same =>
          subst same
          exact ⟨_, ih.1 put, rfl⟩
        next => cases put
      · rintro ⟨⟨inner, text⟩, there, same⟩
        cases same
        rw [if_pos rfl]
        exact ih.2 there

theorem puts_eq_table {leaf : Leaf} {path : List String} :
    puts leaf path spot = some (some .table) ↔
      spot <+: path ∧ (spot = path → ∃ texts, leaf = .properties texts) := by
  induction path generalizing spot with
  | nil =>
    rw [List.prefix_nil]
    cases leaf with
    | text s =>
      show some (textPuts s spot) = _ ↔ _
      rw [Option.some_inj, textPuts_eq_some]
      constructor
      · rintro ⟨-, same⟩
        cases same
      · rintro ⟨here, bundle⟩
        obtain ⟨texts, same⟩ := bundle here
        cases same
    | properties texts =>
      cases spot with
      | nil => exact ⟨fun _ => ⟨rfl, fun _ => ⟨texts, rfl⟩⟩, fun _ => rfl⟩
      | cons key rest =>
        constructor
        · intro put
          obtain ⟨text, -, put⟩ := Option.map_eq_some_iff.1 put
          cases (textPuts_eq_some.1 put).2
        · rintro ⟨here, -⟩
          cases here
  | cons key path ih =>
    cases spot with
    | nil =>
      refine ⟨fun _ => ⟨List.nil_prefix, fun same => ?_⟩, fun _ => rfl⟩
      cases same
    | cons other spot =>
      rw [puts, List.cons_prefix_cons, List.cons.injEq]
      split
      next same =>
        subst same
        rw [ih]
        simp only [true_and]
      next different =>
        constructor
        · intro put
          cases put
        · rintro ⟨⟨same, -⟩, -⟩
          exact absurd same different

/-- What is put somewhere is a text or a table. -/
theorem text_or_table_of_puts {leaf : Leaf} {path : List String} {mark : Mark}
    (put : puts leaf path spot = some (some mark)) : (∃ s, mark = .text s) ∨ mark = .table := by
  induction path generalizing spot with
  | nil =>
    cases leaf with
    | text s => exact .inl ⟨s, (textPuts_eq_some.1 (Option.some_inj.1 put)).2⟩
    | properties texts =>
      cases spot with
      | nil =>
        cases put
        exact .inr rfl
      | cons key rest =>
        obtain ⟨text, -, put⟩ := Option.map_eq_some_iff.1 put
        exact .inl ⟨text, (textPuts_eq_some.1 put).2⟩
  | cons key path ih =>
    cases spot with
    | nil =>
      cases put
      exact .inr rfl
    | cons other spot =>
      rw [puts] at put
      split at put
      · exact ih put
      · cases put

/-- Nothing is put below a text, and nowhere else is nothing put. -/
theorem exists_text_of_puts_none {leaf : Leaf} {path : List String}
    (put : puts leaf path spot = some none) :
    ∃ above text, puts leaf path above = some (some (.text text)) ∧ above <+: spot ∧
      above ≠ spot := by
  induction path generalizing spot with
  | nil =>
    cases leaf with
    | text s =>
      cases spot with
      | nil => cases put
      | cons key rest => exact ⟨[], s, rfl, List.nil_prefix, nofun⟩
    | properties texts =>
      cases spot with
      | nil => cases put
      | cons key rest =>
        obtain ⟨text, found, put⟩ := Option.map_eq_some_iff.1 put
        cases rest with
        | nil => cases put
        | cons next rest =>
          refine ⟨[key], text, ?_, List.cons_prefix_cons.2 ⟨rfl, List.nil_prefix⟩, nofun⟩
          show (texts.get? key).map (textPuts · []) = _
          rw [found]
          rfl
  | cons key path ih =>
    cases spot with
    | nil => cases put
    | cons other spot =>
      rw [puts] at put
      split at put
      next same =>
        subst same
        obtain ⟨above, text, put, leads, different⟩ := ih put
        refine ⟨other :: above, text, ?_, List.cons_prefix_cons.2 ⟨rfl, leads⟩, ?_⟩
        · rwa [puts, if_pos rfl]
        · exact fun same => different (List.cons_injective same)
      next => cases put

/-- Above a place where something is put there are tables. -/
theorem table_of_puts {leaf : Leaf} {path above : List String} {mark : Mark}
    (put : puts leaf path spot = some (some mark)) (leads : above <+: spot)
    (different : above ≠ spot) : puts leaf path above = some (some .table) := by
  induction path generalizing spot above with
  | nil =>
    cases spot with
    | nil => exact absurd (List.prefix_nil.1 leads) different
    | cons key rest =>
      cases leaf with
      | text s => cases put
      | properties texts =>
        obtain ⟨text, -, put⟩ := Option.map_eq_some_iff.1 put
        obtain ⟨rfl, -⟩ := textPuts_eq_some.1 put
        cases above with
        | nil => rfl
        | cons other above =>
          obtain ⟨rfl, nothing⟩ := List.cons_prefix_cons.1 leads
          rw [List.prefix_nil.1 nothing] at different
          exact absurd rfl different
  | cons key path ih =>
    cases above with
    | nil => rfl
    | cons other above =>
      obtain ⟨rest, rfl⟩ := leads
      rw [List.cons_append, puts] at put
      rw [puts]
      split at put
      next same =>
        rw [if_pos same]
        exact ih put (List.prefix_append above rest) fun same =>
          different (congrArg (other :: ·) same)
      next => cases put

end Document

/-- A leaf that is put at a path below the top of a document. -/
structure Addition where
  path : List String
  leaf : Leaf
  below : path ≠ []
  /-- No property has two values. -/
  distinct : leaf.Distinct

namespace Addition

variable {a b : Addition} {spot : List String} {table : Entries Data} {additions : List Addition}

/-- The texts that an addition puts into a document, each with its path. -/
def texts (a : Addition) : List (List String × String) :=
  a.leaf.textsAt a.path

/-- An addition needs a table on the way to its place, and at its place when it is a bundle. -/
def NeedsTable (a : Addition) (spot : List String) : Prop :=
  spot <+: a.path ∧ (spot = a.path → ∃ texts, a.leaf = .properties texts)

/-- A text of one addition stands where the other puts a text or needs a table. -/
def Meets (a b : Addition) : Prop :=
  ∃ text ∈ a.texts, text.1 ∈ b.texts.map (·.1) ∨ b.NeedsTable text.1

def Conflict (a b : Addition) : Prop :=
  a.Meets b ∨ b.Meets a

theorem Conflict.symm (conflict : a.Conflict b) : b.Conflict a :=
  Or.symm conflict

/-- What an addition puts at a place. -/
def puts (a : Addition) (spot : List String) : Option (Option Mark) :=
  Document.puts a.leaf a.path spot

/-- The keys that an addition puts into the table at a place. -/
def keysPut (a : Addition) (spot : List String) : List String :=
  Document.keysPut a.leaf a.path spot

theorem mem_texts {value : String} :
    (spot, value) ∈ a.texts ↔ a.puts spot = some (some (.text value)) :=
  (Document.puts_eq_text a.distinct).symm

theorem needsTable_iff : a.NeedsTable spot ↔ a.puts spot = some (some .table) :=
  Document.puts_eq_table.symm

theorem exists_mem_texts {text : String} (put : a.puts spot = some (some (.text text)))
    {mark : Mark} (put' : b.puts spot = some (some mark)) : a.Meets b := by
  refine ⟨(spot, text), mem_texts.2 put, ?_⟩
  rcases Document.text_or_table_of_puts put' with ⟨s, rfl⟩ | rfl
  · exact .inl (List.mem_map.2 ⟨(spot, s), mem_texts.2 put', rfl⟩)
  · exact .inr (needsTable_iff.2 put')

/-- Additions conflict when they put things at one place that do not merge. -/
theorem conflict_iff : a.Conflict b ↔
    ∃ spot mark mark', a.puts spot = some (some mark) ∧ b.puts spot = some (some mark') ∧
      ¬ Document.Merges mark mark' := by
  have meets : ∀ {a b : Addition}, a.Meets b → ∃ spot text mark,
      a.puts spot = some (some (.text text)) ∧ b.puts spot = some (some mark) := by
    rintro a b ⟨⟨spot, text⟩, there, text' | table⟩
    · obtain ⟨⟨_, value⟩, there', rfl⟩ := List.mem_map.1 text'
      exact ⟨_, text, _, mem_texts.1 there, mem_texts.1 there'⟩
    · exact ⟨spot, text, _, mem_texts.1 there, needsTable_iff.1 table⟩
  constructor
  · rintro (meets' | meets')
    · obtain ⟨spot, text, mark, put, put'⟩ := meets meets'
      exact ⟨spot, _, _, put, put', fun merges => by cases merges.1⟩
    · obtain ⟨spot, text, mark, put, put'⟩ := meets meets'
      exact ⟨spot, _, _, put', put, fun merges => by cases merges.2⟩
  · rintro ⟨spot, mark, mark', put, put', apart⟩
    rcases Document.text_or_table_of_puts put with ⟨text, rfl⟩ | rfl
    · exact .inl (exists_mem_texts put put')
    rcases Document.text_or_table_of_puts put' with ⟨text, rfl⟩ | rfl
    · exact .inr (exists_mem_texts put' put)
    · exact absurd ⟨rfl, rfl⟩ apart

/-- Where an addition puts nothing, no addition without a conflict puts anything. -/
theorem conflict_of_puts_none {mark : Mark} (none : a.puts spot = some none)
    (put : b.puts spot = some (some mark)) : a.Conflict b := by
  obtain ⟨above, text, textPut, leads, different⟩ := Document.exists_text_of_puts_none none
  exact .inl (exists_mem_texts textPut (Document.table_of_puts put leads different))

/-- Every addition needs a table at the top. -/
theorem puts_top (a : Addition) : a.puts [] = some (some .table) :=
  needsTable_iff.1 ⟨List.nil_prefix, fun same => absurd same.symm a.below⟩

/-! ## One addition -/

/-- Puts an addition into a table. -/
def addTo (a : Addition) (table : Entries Data) : Document.Placed :=
  match a.path with
  | [] => (table, [])
  | key :: rest => Document.place [] a.leaf table key rest

theorem exists_addTo_eq (a : Addition) (table : Entries Data) :
    ∃ key rest, a.path = key :: rest ∧ a.addTo table = Document.place [] a.leaf table key rest := by
  obtain ⟨key, rest, path⟩ := List.exists_cons_of_ne_nil a.below
  refine ⟨key, rest, path, ?_⟩
  unfold addTo
  rw [path]

theorem markAt?_addTo (a : Addition) (table : Entries Data) (spot : List String) :
    (Data.table (a.addTo table).1).markAt? spot =
      (a.puts spot).getD ((Data.table table).markAt? spot) := by
  obtain ⟨key, rest, path, same⟩ := a.exists_addTo_eq table
  unfold puts
  rw [same, path, Document.markAt?_place a.distinct]

theorem warnings_addTo_eq_nil :
    (a.addTo table).2 = [] ↔ ∀ spot mark mark', a.puts spot = some (some mark) →
      (Data.table table).markAt? spot = some mark' → Document.Merges mark mark' := by
  obtain ⟨key, rest, path, same⟩ := a.exists_addTo_eq table
  unfold puts
  rw [same, path]
  exact Document.warnings_place_eq_nil a.distinct

theorem keysAt_addTo (document : IsDocument (.table table)) (clean : (a.addTo table).2 = [])
    (spot : List String) :
    (Data.table (a.addTo table).1).keysAt spot =
      ((Data.table table).keysAt spot ++ a.keysPut spot).eraseDups := by
  obtain ⟨key, rest, path, same⟩ := a.exists_addTo_eq table
  rw [same] at clean
  unfold keysPut
  rw [same, path]
  exact Document.keysAt_place a.distinct spot document clean

theorem isDocument_addTo (document : IsDocument (.table table)) :
    IsDocument (.table (a.addTo table).1) := by
  obtain ⟨key, rest, path, same⟩ := a.exists_addTo_eq table
  rw [same]
  exact Document.isDocument_place (Leaf.isDocument_data a.distinct) rest [] key document

/-! ## One addition after another -/

/-- Puts additions into a table, first to last. -/
def addAll (table : Entries Data) : List Addition → Document.Placed
  | [] => (table, [])
  | a :: rest =>
    let (table, warnings) := a.addTo table
    let (table, more) := addAll table rest
    (table, warnings ++ more)

theorem addAll_cons (table : Entries Data) (a : Addition) (rest : List Addition) :
    addAll table (a :: rest) =
      ((addAll (a.addTo table).1 rest).1, (a.addTo table).2 ++ (addAll (a.addTo table).1 rest).2) :=
  rfl

/-- What additions without conflicts have made: what one of them puts somewhere is there, nothing
else is, and keys are in the order in which they are put. -/
structure Made (additions : List Addition) (table : Entries Data) : Prop where
  document : IsDocument (.table table)
  marks : ∀ spot mark, spot ≠ [] →
    ((Data.table table).markAt? spot = some mark ↔ ∃ a ∈ additions, a.puts spot = some (some mark))
  keys : ∀ spot,
    (Data.table table).keysAt spot = (additions.flatMap (·.keysPut spot)).eraseDups

theorem made_nil : Made [] [] where
  document := .table .nil fun _ there => absurd there List.not_mem_nil
  marks spot mark below := by
    cases spot with
    | nil => exact absurd rfl below
    | cons key rest => exact ⟨nofun, fun ⟨_, there, _⟩ => absurd there List.not_mem_nil⟩
  keys spot := by cases spot <;> rfl

/-- The texts that were made are those that are put. -/
theorem Made.texts_iff (made : Made additions table) {text : String} :
    (Data.table table).markAt? spot = some (.text text) ↔
      ∃ a ∈ additions, (spot, text) ∈ a.texts := by
  simp only [mem_texts]
  cases spot with
  | nil =>
    refine ⟨nofun, fun ⟨a, _, put⟩ => ?_⟩
    cases a.puts_top.symm.trans put
  | cons key rest => exact made.marks _ _ (List.cons_ne_nil key rest)

/-- An addition leaves no warning when it conflicts with no earlier one. -/
theorem Made.warnings_eq_nil (made : Made additions table) :
    (a.addTo table).2 = [] ↔ ∀ b ∈ additions, ¬ b.Conflict a := by
  rw [warnings_addTo_eq_nil]
  constructor
  · intro merges b there conflict
    obtain ⟨spot, mark, mark', put, put', apart⟩ := conflict_iff.1 conflict
    cases spot with
    | nil =>
      cases b.puts_top.symm.trans put
      cases a.puts_top.symm.trans put'
      exact apart ⟨rfl, rfl⟩
    | cons key rest =>
      have stands := (made.marks _ mark (List.cons_ne_nil key rest)).2 ⟨b, there, put⟩
      exact apart (merges _ _ _ put' stands).symm
  · intro clear spot mark mark' put stands
    cases spot with
    | nil =>
      cases a.puts_top.symm.trans put
      cases stands
      exact ⟨rfl, rfl⟩
    | cons key rest =>
      obtain ⟨b, there, put'⟩ := (made.marks _ mark' (List.cons_ne_nil key rest)).1 stands
      by_contra apart
      exact clear b there (conflict_iff.2 ⟨_, _, _, put', put, fun merges => apart merges.symm⟩)

/-- What was made and an addition without a conflict make more. -/
theorem Made.concat (made : Made additions table) (clear : ∀ b ∈ additions, ¬ b.Conflict a) :
    Made (additions ++ [a]) (a.addTo table).1 where
  document := isDocument_addTo made.document
  marks spot mark below := by
    have concat : (∃ b ∈ additions ++ [a], b.puts spot = some (some mark)) ↔
        (∃ b ∈ additions, b.puts spot = some (some mark)) ∨ a.puts spot = some (some mark) := by
      simp only [List.mem_append, List.mem_singleton, or_and_right, exists_or, exists_eq_left]
    rw [markAt?_addTo, concat, ← made.marks spot mark below]
    cases put : a.puts spot with
    | none => exact ⟨.inl, fun found => found.resolve_right nofun⟩
    | some put' =>
      cases put' with
      | none =>
        -- An earlier addition that puts something here would conflict.
        refine ⟨nofun, fun found => ?_⟩
        rcases found with stands | same
        · obtain ⟨b, there, put'⟩ := (made.marks spot mark below).1 stands
          exact absurd (conflict_of_puts_none put put').symm (clear b there)
        · cases same
      | some mark' =>
        refine ⟨fun same => .inr (congrArg some same), fun found => ?_⟩
        rcases found with stands | same
        · obtain ⟨b, there, put'⟩ := (made.marks spot mark below).1 stands
          by_contra different
          refine clear b there (conflict_iff.2 ⟨spot, mark, mark', put', put, fun merges => ?_⟩)
          exact different (congrArg some (merges.2.trans merges.1.symm))
        · exact Option.some_inj.1 same
  keys spot := by
    rw [keysAt_addTo made.document (made.warnings_eq_nil.2 clear), made.keys,
      eraseDups_eraseDups_append, List.flatMap_append, List.flatMap_singleton]

/-- A run of additions leaves no warning exactly when no two of them conflict. -/
theorem Made.warnings_addAll_eq_nil (made : Made additions table) (later : List Addition) :
    (addAll table later).2 = [] ↔
      later.Pairwise (¬ Conflict · ·) ∧ ∀ b ∈ additions, ∀ a ∈ later, ¬ b.Conflict a := by
  induction later generalizing additions table with
  | nil =>
    exact ⟨fun _ => ⟨.nil, fun _ _ _ there => absurd there List.not_mem_nil⟩, fun _ => rfl⟩
  | cons a later ih =>
    rw [addAll_cons, List.append_eq_nil_iff, made.warnings_eq_nil, List.pairwise_cons]
    constructor
    · rintro ⟨clear, behind⟩
      obtain ⟨pairwise, apart⟩ := (ih (made.concat clear)).1 behind
      refine ⟨⟨apart a (List.mem_append_right _ List.mem_cons_self), pairwise⟩, ?_⟩
      intro b there
      rw [List.forall_mem_cons]
      exact ⟨clear b there, apart b (List.mem_append_left _ there)⟩
    · rintro ⟨⟨here, pairwise⟩, apart⟩
      have clear : ∀ b ∈ additions, ¬ b.Conflict a := fun b there =>
        apart b there a List.mem_cons_self
      refine ⟨clear, (ih (made.concat clear)).2 ⟨pairwise, fun b there c behind => ?_⟩⟩
      rcases List.mem_append.1 there with there | there
      · exact apart b there c (List.mem_cons_of_mem _ behind)
      · rw [List.mem_singleton.1 there]
        exact here c behind

/-- A run of additions that leaves no warning makes what all of them put. -/
theorem Made.addAll (made : Made additions table) {later : List Addition}
    (clean : (addAll table later).2 = []) : Made (additions ++ later) (addAll table later).1 := by
  induction later generalizing additions table with
  | nil => rwa [List.append_nil]
  | cons a later ih =>
    obtain ⟨here, behind⟩ := List.append_eq_nil_iff.1 clean
    rw [List.append_cons]
    exact ih (made.concat (made.warnings_eq_nil.1 here)) behind

/-- A text stays where it is while no addition conflicts with the one that put it there. -/
theorem markAt?_addAll_of_clear {text : String} (put : a.puts spot = some (some (.text text)))
    (stands : (Data.table table).markAt? spot = some (.text text)) {later : List Addition}
    (clear : ∀ b ∈ later, ¬ a.Conflict b) :
    (Data.table (Addition.addAll table later).1).markAt? spot = some (.text text) := by
  induction later generalizing table with
  | nil => exact stands
  | cons b later ih =>
    obtain ⟨here, clear⟩ := List.forall_mem_cons.1 clear
    have still : (Data.table (b.addTo table).1).markAt? spot = some (.text text) := by
      rw [markAt?_addTo]
      cases put' : b.puts spot with
      | none => exact stands
      | some mark =>
        cases mark with
        | none => exact absurd (conflict_of_puts_none put' put).symm here
        | some mark =>
          refine absurd (conflict_iff.2 ⟨spot, _, mark, put, put', fun merges => ?_⟩) here
          cases merges.1
    exact ih still clear

theorem addAll_append (table : Entries Data) (first second : List Addition) :
    (Addition.addAll table (first ++ second)).1 =
      (Addition.addAll (Addition.addAll table first).1 second).1 := by
  induction first generalizing table with
  | nil => rfl
  | cons a first ih => exact ih (a.addTo table).1

/-- The texts of an addition are found when no later addition conflicts with it. -/
theorem markAt?_addAll {before after : List Addition} (clear : ∀ b ∈ after, ¬ a.Conflict b)
    {text : List String × String} (there : text ∈ a.texts) :
    (Data.table (Addition.addAll table (before ++ a :: after)).1).markAt? text.1 =
      some (.text text.2) := by
  have put := mem_texts.1 there
  rw [addAll_append, addAll_cons]
  refine markAt?_addAll_of_clear put ?_ clear
  rw [markAt?_addTo, put]
  rfl

theorem exists_of_mem_warnings {warning : Warning} (left : warning ∈ (addAll table additions).2) :
    ∃ path, warning = .keyDefinedTwice path := by
  induction additions generalizing table with
  | nil => exact absurd left List.not_mem_nil
  | cons a additions ih =>
    rw [addAll_cons] at left
    rcases List.mem_append.1 left with here | behind
    · obtain ⟨key, rest, -, same⟩ := a.exists_addTo_eq table
      rw [same] at here
      exact Document.exists_of_mem_warnings_place here
    · exact ih behind

end Addition

/-! ## The tokens of a document -/

open Inquiry

section Tokens

variable {library : Library} {s : Substitution} {tokens : List Token} {additions : List Addition}

/-- A token that has a value adds it at the place that its name says. -/
def Token.Adds (library : Library) (s : Substitution) (token : Token) (a : Addition) : Prop :=
  a.path = placeOf token.name ∧ outcome library (Leaf.ofToken s token) = .ok a.leaf

theorem exists_additions (resolve : ∀ token ∈ tokens, ∃ leaf,
    outcome library (Leaf.ofToken s token) = .ok leaf) :
    ∃ additions, List.Forall₂ (Token.Adds library s) tokens additions := by
  induction tokens with
  | nil => exact ⟨[], .nil⟩
  | cons token rest ih =>
    obtain ⟨⟨leaf, computed⟩, resolve⟩ := List.forall_mem_cons.1 resolve
    obtain ⟨additions, adds⟩ := ih resolve
    let a : Addition :=
      ⟨placeOf token.name, leaf, placeOf_ne_nil _, distinct_of_ofToken computed⟩
    exact ⟨a :: additions, .cons ⟨rfl, computed⟩ adds⟩

theorem addTo_eq {token : Token} {a : Addition} (adds : token.Adds library s a)
    (table : Entries Data) : Document.placeNamed table token.name a.leaf = a.addTo table := by
  obtain ⟨key, rest, path, same⟩ := Document.placeNamed_eq table token.name a.leaf
  unfold Addition.addTo
  rw [same, adds.1, path]

theorem warnsOnly_ofToken (token : Token) : WarnsOfReferences library (Leaf.ofToken s token) := by
  unfold Leaf.ofToken
  split
  · exact WarnsOnly.bind (warnsOnly_properties _ _) fun _ => warnsOnly_pure _
  · exact WarnsOnly.bind (warnsOnly_cssValue _) fun _ => warnsOnly_pure _

theorem notes_leaveAll (warnings : List Warning) :
    (answer library (Document.leaveAll warnings)).notes = warnings := by
  induction warnings with
  | nil => rfl
  | cons warning rest ih =>
    have left : (answer library (leave warning >>= fun _ => Document.leaveAll rest)).notes =
        warning :: rest := by
      rw [notes_bind (outcome_leave warning), ih]
      rfl
    exact left

/-- Adding tokens is putting what they add, one after another. -/
theorem outcome_addTokens (adds : List.Forall₂ (Token.Adds library s) tokens additions)
    (table : Entries Data) :
    outcome library (Document.addTokens s table tokens) =
      .ok (Addition.addAll table additions).1 := by
  induction adds generalizing table with
  | nil => rfl
  | cons here _ ih =>
    refine Document.outcome_addTokens_cons.2 ⟨_, here.2, ?_⟩
    rw [addTo_eq here]
    exact ih _

/-- The warnings about keys are those of the additions. -/
theorem mem_notes_addTokens (adds : List.Forall₂ (Token.Adds library s) tokens additions)
    (table : Entries Data) (path : List String) :
    .keyDefinedTwice path ∈ (answer library (Document.addTokens s table tokens)).notes ↔
      .keyDefinedTwice path ∈ (Addition.addAll table additions).2 := by
  induction adds generalizing table with
  | nil => exact Iff.rfl
  | @cons token a tokens additions here _ ih =>
    have silent : .keyDefinedTwice path ∉ (answer library (Leaf.ofToken s token)).notes := by
      intro there
      cases warnsOnly_ofToken token _ there
    rw [Document.addTokens, notes_bind here.2, addTo_eq here,
      notes_bind (Document.outcome_leaveAll _), notes_leaveAll, List.mem_append, List.mem_append,
      ih, Addition.addAll_cons, List.mem_append]
    exact or_iff_right silent

end Tokens

/-- A document of tokens that have values loses nothing silently.

1. It warns that a key is defined twice exactly when two of the tokens conflict.
2. Without a conflict its texts are those of all tokens, and the keys of every table are in the
   order in which they first arrive.
3. The texts of a token are found unless a later token conflicts with it.

All of this holds of the text that is written, which is read back as the document. -/
theorem document_loses_nothing_silently (library : Library) (s : Substitution) {tokens : List Token}
    (resolve : ∀ token ∈ tokens, ∃ leaf, outcome library (Leaf.ofToken s token) = .ok leaf) :
    ∃ additions document text, List.Forall₂ (Token.Adds library s) tokens additions ∧
      outcome library (Document.addTokens s [] tokens) = .ok document ∧
      outcome library (Document.ofTokens s tokens) = .ok text ∧
      Json.read text.toList = .ok (.table document) ∧
      ((∀ path, .keyDefinedTwice path ∉ (answer library (Document.addTokens s [] tokens)).notes) ↔
        additions.Pairwise (¬ Addition.Conflict · ·)) ∧
      (additions.Pairwise (¬ Addition.Conflict · ·) →
        (∀ spot value, (Data.table document).at? spot = some (.text value) ↔
          ∃ a ∈ additions, (spot, value) ∈ a.texts) ∧
        ∀ spot entries, (Data.table document).at? spot = some (.table entries) →
          Entries.keys entries = (additions.flatMap (·.keysPut spot)).eraseDups) ∧
      ∀ before a after, additions = before ++ a :: after → (∀ b ∈ after, ¬ a.Conflict b) →
        ∀ text ∈ a.texts, (Data.table document).at? text.1 = some (.text text.2) := by
  obtain ⟨additions, adds⟩ := exists_additions resolve
  have placed := outcome_addTokens adds []
  have written : ∃ text, outcome library (Document.ofTokens s tokens) = .ok text :=
    ⟨_, outcome_bind_eq_ok.2 ⟨_, placed, rfl⟩⟩
  obtain ⟨text, written⟩ := written
  obtain ⟨document, placed', read⟩ := Document.exists_document_of_ofTokens written
  cases placed.symm.trans placed'
  have warnings : (∀ path,
      .keyDefinedTwice path ∉ (answer library (Document.addTokens s [] tokens)).notes) ↔
        (Addition.addAll [] additions).2 = [] := by
    simp only [mem_notes_addTokens adds, List.eq_nil_iff_forall_not_mem]
    refine ⟨fun clear warning left => ?_, fun none path => none _⟩
    obtain ⟨path, rfl⟩ := Addition.exists_of_mem_warnings left
    exact clear path left
  have conflicts : (Addition.addAll [] additions).2 = [] ↔
      additions.Pairwise (¬ Addition.Conflict · ·) := by
    rw [Addition.made_nil.warnings_addAll_eq_nil]
    exact and_iff_left fun _ there => absurd there List.not_mem_nil
  refine ⟨additions, _, text, adds, placed, written, read, warnings.trans conflicts, ?_, ?_⟩
  · intro pairwise
    have made := Addition.made_nil.addAll (conflicts.2 pairwise)
    rw [List.nil_append] at made
    refine ⟨fun spot value => ?_, fun spot entries found => ?_⟩
    · rw [Data.at?_eq_text_iff, made.texts_iff]
    · rw [← made.keys spot]
      unfold Data.keysAt
      rw [found]
  · rintro before a after rfl clear text there
    exact Data.at?_eq_text_iff.2 (Addition.markAt?_addAll clear there)

/-- Two tokens in a group, and a bundle at the place of the group. -/
def groupAndBundle : List Token :=
  [.spacing "s.a" "x.y" "1px", .spacing "s.b" "x.z" "2px",
    ⟨"s.c", "x", .composition, .bundle [("w", "3px")], rfl, by decide⟩]

/-- A library of these tokens. -/
def groupLibrary : Library := .ofTokens groupAndBundle (by decide)

theorem leaves_of_groupAndBundle :
    List.Forall₂ (fun token leaf =>
      outcome groupLibrary (Leaf.ofToken (groupLibrary.substitution .static none) token) = .ok leaf)
      groupAndBundle [.text "1px", .text "2px", .properties [("w", "3px")]] :=
  .cons (by decide +kernel) (.cons (by decide +kernel) (.cons (by decide +kernel) .nil))

/-- The bundle is merged with the group, and nothing is lost. -/
theorem groupAndBundle_merged :
    (∀ token ∈ groupAndBundle, ∃ leaf,
      outcome groupLibrary (Leaf.ofToken (groupLibrary.substitution .static none) token) =
        .ok leaf) ∧
    ∃ document text,
      outcome groupLibrary
        (Document.ofTokens (groupLibrary.substitution .static none) groupAndBundle) = .ok text ∧
      Json.read text.toList = .ok (.table document) ∧
      (Data.table document).at? ["x", "y"] = some (.text "1px") ∧
      (Data.table document).at? ["x", "w"] = some (.text "3px") ∧
      ∀ entries, (Data.table document).at? ["x"] = some (.table entries) →
        Entries.keys entries = ["y", "z", "w"] := by
  have resolve : ∀ token ∈ groupAndBundle, ∃ leaf,
      outcome groupLibrary (Leaf.ofToken (groupLibrary.substitution .static none) token) =
        .ok leaf := by
    intro token there
    obtain ⟨i, inside, rfl⟩ := List.getElem_of_mem there
    exact ⟨_, leaves_of_groupAndBundle.get inside (by rwa [← leaves_of_groupAndBundle.length_eq])⟩
  have silent : (answer groupLibrary (Document.addTokens (groupLibrary.substitution .static none) []
      groupAndBundle)).notes = [] := by decide +kernel
  obtain ⟨additions, document, text, adds, -, written, read, warns, kept, -⟩ :=
    document_loses_nothing_silently groupLibrary (groupLibrary.substitution .static none) resolve
  have clean := warns.1 fun path => silent ▸ List.not_mem_nil
  obtain ⟨texts, keys⟩ := kept clean
  -- The additions are those of the three values.
  obtain ⟨a, b, c, rfl, first, second, third⟩ : ∃ a b c : Addition, additions = [a, b, c] ∧
      (a.path = ["x", "y"] ∧ a.leaf = .text "1px") ∧ (b.path = ["x", "z"] ∧ b.leaf = .text "2px") ∧
      c.path = ["x"] ∧ c.leaf = .properties [("w", "3px")] := by
    obtain _ | ⟨first, _ | ⟨second, _ | ⟨third, _ | _⟩⟩⟩ := adds
    obtain _ | ⟨first', _ | ⟨second', _ | ⟨third', _ | _⟩⟩⟩ := leaves_of_groupAndBundle
    exact ⟨_, _, _, rfl, ⟨first.1, Except.ok.inj (first.2.symm.trans first')⟩,
      ⟨second.1, Except.ok.inj (second.2.symm.trans second')⟩,
      third.1, Except.ok.inj (third.2.symm.trans third')⟩
  have inFirst : (["x", "y"], "1px") ∈ a.texts := by
    unfold Addition.texts
    rw [first.1, first.2]
    decide
  have inThird : (["x", "w"], "3px") ∈ c.texts := by
    unfold Addition.texts
    rw [third.1, third.2]
    decide
  refine ⟨resolve, document, text, written, read, (texts _ _).2 ⟨a, by simp, inFirst⟩,
    (texts _ _).2 ⟨c, by simp, inThird⟩, fun entries found => ?_⟩
  rw [keys _ _ found]
  simp only [List.flatMap_cons, List.flatMap_nil, Addition.keysPut, first, second, third]
  decide

end DesignTokens
