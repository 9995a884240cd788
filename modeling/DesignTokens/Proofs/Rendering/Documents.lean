import DesignTokens.Proofs.Library.Names
import DesignTokens.Proofs.Rendering.Placement
import DesignTokens.Proofs.Resolution.Answers
import DesignTokens.Proofs.Text
import Mathlib.Data.List.Basic

/-!
# The document of some tokens

The tokens of a document are placed one after another. A token whose path is apart from those of the
tokens behind it is found where its name says (`at?_addTokens_last`), and the text of the document
is read back as the document (`exists_document_of_ofTokens`).
-/

namespace DesignTokens

open Inquiry

variable {library : Library} {s : Substitution}

/-- The path to the place that a name says. -/
def placeOf (name : String) : List String := Text.parts '.' name

theorem placeOf_ne_nil (name : String) : placeOf name ≠ [] :=
  Text.parts_ne_nil '.' name

/-- No two names say one place. -/
theorem placeOf_injective : Function.Injective placeOf :=
  Text.parts_injective '.'

/-! ## What a token puts at its place -/

theorem outcome_leaf_eq_ok {token : Token} {leaf : Leaf} (single : token.isBundle = false)
    (computed : outcome library (Leaf.ofToken s token) = .ok leaf) :
    ∃ text, outcome library (s.cssValue token) = .ok text ∧ leaf = .text text := by
  unfold Leaf.ofToken at computed
  cases form : token.value with
  | bundle bundle =>
    unfold Token.isBundle at single
    rw [form] at single
    cases single
  | plain raw =>
    rw [form] at computed
    obtain ⟨text, written, last⟩ := outcome_bind_eq_ok.1 computed
    cases last
    exact ⟨text, written, rfl⟩
  | shadow layers =>
    rw [form] at computed
    obtain ⟨text, written, last⟩ := outcome_bind_eq_ok.1 computed
    cases last
    exact ⟨text, written, rfl⟩

/-- The properties of a bundle keep their names. -/
theorem keys_of_expandProperties {expand : String → Inquiry String}
    {properties : List (String × String)} {result : List (String × String)}
    (computed : outcome library (Substitution.expandProperties expand properties) = .ok result) :
    result.map (·.1) = properties.map (·.1) := by
  induction properties generalizing result with
  | nil =>
    cases computed
    rfl
  | cons property rest ih =>
    obtain ⟨value, _, computed⟩ := outcome_bind_eq_ok.1 computed
    obtain ⟨others, behind, last⟩ := outcome_bind_eq_ok.1 computed
    cases last
    exact congrArg (property.1 :: ·) (ih behind)

/-- The properties that a token puts at its place have distinct names. -/
theorem distinct_of_ofToken {token : Token} {leaf : Leaf}
    (computed : outcome library (Leaf.ofToken s token) = .ok leaf) : leaf.Distinct := by
  cases single : token.isBundle with
  | false =>
    obtain ⟨text, _, rfl⟩ := outcome_leaf_eq_ok single computed
    exact trivial
  | true =>
    unfold Leaf.ofToken at computed
    cases form : token.value with
    | bundle bundle =>
      rw [form] at computed
      obtain ⟨properties, expanded, last⟩ := outcome_bind_eq_ok.1 computed
      cases last
      have distinct := token.distinct
      rw [form] at distinct
      show (properties.map (·.1)).Nodup
      rw [keys_of_expandProperties expanded]
      exact distinct
    | plain raw => simp [Token.isBundle, form, TokenValue.form] at single
    | shadow layers => simp [Token.isBundle, form, TokenValue.form] at single

/-- What a token puts at its place is a document. -/
theorem isDocument_leaf {token : Token} {leaf : Leaf}
    (computed : outcome library (Leaf.ofToken s token) = .ok leaf) : IsDocument leaf.data :=
  Leaf.isDocument_data (distinct_of_ofToken computed)

namespace Document

/-! ## One token after another -/

theorem outcome_leaveAll (warnings : List Warning) :
    outcome library (leaveAll warnings) = .ok () := by
  induction warnings with
  | nil => rfl
  | cons warning rest ih =>
    have left : outcome library (leave warning >>= fun _ => leaveAll rest) = .ok () :=
      outcome_bind_eq_ok.2 ⟨(), rfl, ih⟩
    exact left

theorem outcome_addTokens_cons {table document : Entries Data} {token : Token}
    {rest : List Token} :
    outcome library (addTokens s table (token :: rest)) = .ok document ↔
      ∃ leaf, outcome library (Leaf.ofToken s token) = .ok leaf ∧
        outcome library (addTokens s (placeNamed table token.name leaf).1 rest) = .ok document := by
  constructor
  · intro computed
    obtain ⟨leaf, here, computed⟩ := outcome_bind_eq_ok.1 computed
    obtain ⟨_, _, behind⟩ := outcome_bind_eq_ok.1 computed
    exact ⟨leaf, here, behind⟩
  · rintro ⟨leaf, here, behind⟩
    refine outcome_bind_eq_ok.2 ⟨leaf, here, ?_⟩
    exact outcome_bind_eq_ok.2 ⟨(), outcome_leaveAll _, behind⟩

theorem outcome_addTokens_append {table document : Entries Data} {first second : List Token}
    (computed : outcome library (addTokens s table (first ++ second)) = .ok document) :
    ∃ between, outcome library (addTokens s table first) = .ok between ∧
      outcome library (addTokens s between second) = .ok document := by
  induction first generalizing table with
  | nil => exact ⟨table, rfl, computed⟩
  | cons token first ih =>
    obtain ⟨leaf, here, computed⟩ := outcome_addTokens_cons.1 computed
    obtain ⟨between, before, behind⟩ := ih computed
    exact ⟨between, outcome_addTokens_cons.2 ⟨leaf, here, before⟩, behind⟩

theorem placeNamed_eq (table : Entries Data) (name : String) (leaf : Leaf) :
    ∃ key rest, placeOf name = key :: rest ∧
      placeNamed table name leaf = place [] leaf table key rest := by
  obtain ⟨key, rest, parts⟩ := List.exists_cons_of_ne_nil (placeOf_ne_nil name)
  refine ⟨key, rest, parts, ?_⟩
  unfold placeNamed
  rw [show Text.parts '.' name = key :: rest from parts]

/-- Tokens with other places do not change what is found at a place. -/
theorem at?_addTokens_of_apart {table document : Entries Data} {tokens : List Token}
    {path : List String} (apart : ∀ u ∈ tokens, Apart (placeOf u.name) path)
    (computed : outcome library (addTokens s table tokens) = .ok document) :
    (Data.table document).at? path = (Data.table table).at? path := by
  induction tokens generalizing table with
  | nil =>
    cases computed
    rfl
  | cons token rest ih =>
    obtain ⟨leaf, _, behind⟩ := outcome_addTokens_cons.1 computed
    obtain ⟨key, others, parts, placed⟩ := placeNamed_eq table token.name leaf
    have here := apart token List.mem_cons_self
    rw [parts] at here
    rw [ih (fun u there => apart u (List.mem_cons_of_mem _ there)) behind, placed]
    exact at?_place_of_apart [] table here

/-- A token with a single value is found at its place when the tokens behind it have other
places. -/
theorem at?_addTokens_last {table document : Entries Data} {before after : List Token} {u : Token}
    (single : u.isBundle = false) (apart : ∀ v ∈ after, Apart (placeOf v.name) (placeOf u.name))
    (computed : outcome library (addTokens s table (before ++ u :: after)) = .ok document) :
    ∃ text, outcome library (s.cssValue u) = .ok text ∧
      (Data.table document).at? (placeOf u.name) = some (.text text) := by
  obtain ⟨between, _, computed⟩ := outcome_addTokens_append computed
  obtain ⟨leaf, here, behind⟩ := outcome_addTokens_cons.1 computed
  obtain ⟨text, written, rfl⟩ := outcome_leaf_eq_ok single here
  obtain ⟨key, rest, parts, placed⟩ := placeNamed_eq between u.name (.text text)
  refine ⟨text, written, ?_⟩
  rw [at?_addTokens_of_apart apart behind, placed, parts]
  exact at?_place_self text rest [] between key

/-- Every token of a document with a single value has one. -/
theorem exists_cssValue_of_addTokens {table document : Entries Data} {tokens : List Token}
    (computed : outcome library (addTokens s table tokens) = .ok document) {u : Token}
    (there : u ∈ tokens) (single : u.isBundle = false) :
    ∃ text, outcome library (s.cssValue u) = .ok text := by
  obtain ⟨before, after, rfl⟩ := List.mem_iff_append.1 there
  obtain ⟨between, _, computed⟩ := outcome_addTokens_append computed
  obtain ⟨leaf, here, _⟩ := outcome_addTokens_cons.1 computed
  obtain ⟨text, written, _⟩ := outcome_leaf_eq_ok single here
  exact ⟨text, written⟩

theorem isDocument_addTokens {table document : Entries Data} {tokens : List Token}
    (start : IsDocument (.table table))
    (computed : outcome library (addTokens s table tokens) = .ok document) :
    IsDocument (.table document) := by
  induction tokens generalizing table with
  | nil =>
    cases computed
    exact start
  | cons token rest ih =>
    obtain ⟨leaf, here, behind⟩ := outcome_addTokens_cons.1 computed
    obtain ⟨key, others, _, placed⟩ := placeNamed_eq table token.name leaf
    refine ih ?_ behind
    rw [placed]
    exact isDocument_place (isDocument_leaf here) others [] key start

/-- The text of the document of some tokens is read back as the document. -/
theorem exists_document_of_ofTokens {tokens : List Token} {text : String}
    (computed : outcome library (ofTokens s tokens) = .ok text) :
    ∃ document, outcome library (addTokens s [] tokens) = .ok document ∧
      Json.read text.toList = .ok (.table document) := by
  obtain ⟨document, placed, last⟩ := outcome_bind_eq_ok.1 computed
  cases last
  have empty : IsDocument (.table []) := .table .nil fun _ there => absurd there List.not_mem_nil
  refine ⟨document, placed, ?_⟩
  rw [String.toList_append]
  refine Json.read_write (isDocument_addTokens empty placed) ?_
  intro c there
  rw [List.mem_singleton.1 there]
  rfl

end Document

end DesignTokens
