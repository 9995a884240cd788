import DesignTokens.Proofs.Entries
import DesignTokens.Proofs.Resolution.Answers
import DesignTokens.Substitution

/-!
# What an expansion gives

`Reference.substituteIn` computes a text for each reference of a text, from first to last. The
expansion depends on nothing but the computed texts (`answer_substituteIn_congr`). It succeeds
exactly when each of them is computed, and then each reference is replaced by its own
(`outcome_substituteIn`). When it fails, it fails with the failure of one of them
(`outcome_substituteIn_eq_error`). The properties of a bundle are expanded one by one
(`exists_expandProperties_iff`, `exists_get?_of_expandProperties`).
-/

namespace DesignTokens

open Inquiry

namespace Reference

/-- The text of some pieces with a text of its own for each reference. -/
def replace (value : String → String) (pieces : List Piece) : List Char :=
  pieces.flatMap fun
    | .char c => [c]
    | .reference name => (value (String.ofList name)).toList

/-- A text with a text of its own for each of its references. -/
def replaceIn (value : String → String) (text : String) : String :=
  String.ofList (replace value (pieces text.toList))

theorem mem_names {text name : String} :
    name ∈ names text ↔
      ∃ chars, .reference chars ∈ pieces text.toList ∧ String.ofList chars = name := by
  unfold names
  rw [List.mem_filterMap]
  constructor
  · rintro ⟨piece, there, same⟩
    cases piece with
    | char c => cases same
    | reference chars => exact ⟨chars, there, Option.some.inj same⟩
  · rintro ⟨chars, there, same⟩
    exact ⟨.reference chars, there, congrArg some same⟩

/-- A text has a reference exactly when it has the name of one. -/
theorem occursIn_iff {text : String} : occursIn text = true ↔ ∃ name, name ∈ names text := by
  unfold occursIn
  rw [List.any_eq_true]
  constructor
  · rintro ⟨piece, there, isReference⟩
    cases piece with
    | char c => cases isReference
    | reference chars => exact ⟨_, mem_names.2 ⟨chars, there, rfl⟩⟩
  · rintro ⟨name, named⟩
    obtain ⟨chars, there, -⟩ := mem_names.1 named
    exact ⟨_, there, rfl⟩

section Substitute

variable {library : Library} {f g : String → Inquiry String}

theorem answer_substitute_congr {pieces : List Piece}
    (same : ∀ chars, .reference chars ∈ pieces →
      answer library (f (String.ofList chars)) = answer library (g (String.ofList chars))) :
    answer library (substitute f pieces) = answer library (substitute g pieces) := by
  induction pieces with
  | nil => rfl
  | cons piece rest ih =>
    have after := ih fun chars there => same chars (List.mem_cons_of_mem _ there)
    cases piece with
    | char c => exact answer_bind_congr after fun _ => rfl
    | reference chars =>
      refine answer_bind_congr (same chars List.mem_cons_self) fun here => ?_
      exact answer_bind_congr after fun _ => rfl

/-- An expansion depends on the texts that its references become, and on nothing else. -/
theorem answer_substituteIn_congr {text : String}
    (same : ∀ name ∈ names text, answer library (f name) = answer library (g name)) :
    answer library (substituteIn f text) = answer library (substituteIn g text) := by
  refine answer_bind_congr (answer_substitute_congr fun chars there => ?_) fun _ => rfl
  exact same _ (mem_names.2 ⟨chars, there, rfl⟩)

theorem outcome_substitute {value : String → String} {pieces : List Piece}
    (computed : ∀ chars, .reference chars ∈ pieces →
      outcome library (f (String.ofList chars)) = .ok (value (String.ofList chars))) :
    outcome library (substitute f pieces) = .ok (replace value pieces) := by
  induction pieces with
  | nil => rfl
  | cons piece rest ih =>
    have after := ih fun chars there => computed chars (List.mem_cons_of_mem _ there)
    cases piece with
    | char c => exact outcome_bind_eq_ok.2 ⟨_, after, rfl⟩
    | reference chars =>
      refine outcome_bind_eq_ok.2 ⟨_, computed chars List.mem_cons_self, ?_⟩
      exact outcome_bind_eq_ok.2 ⟨_, after, rfl⟩

/-- When each reference has its text computed, the expansion replaces each by its own. -/
theorem outcome_substituteIn {text : String} {value : String → String}
    (computed : ∀ name ∈ names text, outcome library (f name) = .ok (value name)) :
    outcome library (substituteIn f text) = .ok (replaceIn value text) := by
  refine outcome_bind_eq_ok.2 ⟨_, outcome_substitute fun chars there => ?_, rfl⟩
  exact computed _ (mem_names.2 ⟨chars, there, rfl⟩)

theorem exists_of_outcome_substitute_eq_ok {pieces : List Piece} {result : List Char}
    (expanded : outcome library (substitute f pieces) = .ok result) :
    ∀ chars, .reference chars ∈ pieces →
      ∃ text, outcome library (f (String.ofList chars)) = .ok text := by
  induction pieces generalizing result with
  | nil => intro chars there; cases there
  | cons piece rest ih =>
    intro chars there
    cases piece with
    | char c =>
      obtain ⟨after, behind, -⟩ := outcome_bind_eq_ok.1 expanded
      exact ih behind chars ((List.mem_cons.1 there).resolve_left nofun)
    | reference first =>
      obtain ⟨here, computed, others⟩ := outcome_bind_eq_ok.1 expanded
      obtain ⟨after, behind, -⟩ := outcome_bind_eq_ok.1 others
      rcases List.mem_cons.1 there with same | there
      · cases same
        exact ⟨here, computed⟩
      · exact ih behind chars there

/-- An expansion succeeds only when each reference has its text computed. -/
theorem exists_of_outcome_substituteIn_eq_ok {text result : String}
    (expanded : outcome library (substituteIn f text) = .ok result) :
    ∀ name ∈ names text, ∃ text, outcome library (f name) = .ok text := by
  intro name named
  obtain ⟨chars, there, rfl⟩ := mem_names.1 named
  obtain ⟨_, substituted, -⟩ := outcome_bind_eq_ok.1 expanded
  exact exists_of_outcome_substitute_eq_ok substituted chars there

theorem outcome_substitute_eq_error {pieces : List Piece} {failure : Failure}
    (failed : outcome library (substitute f pieces) = .error failure) :
    ∃ chars, .reference chars ∈ pieces ∧
      outcome library (f (String.ofList chars)) = .error failure := by
  induction pieces with
  | nil => cases failed
  | cons piece rest ih =>
    cases piece with
    | char c =>
      rcases outcome_bind_eq_error.1 failed with behind | ⟨_, _, last⟩
      · obtain ⟨chars, there, fails⟩ := ih behind
        exact ⟨chars, List.mem_cons_of_mem _ there, fails⟩
      · cases last
    | reference first =>
      rcases outcome_bind_eq_error.1 failed with here | ⟨_, _, others⟩
      · exact ⟨first, List.mem_cons_self, here⟩
      · rcases outcome_bind_eq_error.1 others with behind | ⟨_, _, last⟩
        · obtain ⟨chars, there, fails⟩ := ih behind
          exact ⟨chars, List.mem_cons_of_mem _ there, fails⟩
        · cases last

/-- An expansion fails with the failure of one of its references. -/
theorem outcome_substituteIn_eq_error {text : String} {failure : Failure}
    (failed : outcome library (substituteIn f text) = .error failure) :
    ∃ name ∈ names text, outcome library (f name) = .error failure := by
  rcases outcome_bind_eq_error.1 failed with substituted | ⟨_, _, last⟩
  · obtain ⟨chars, there, fails⟩ := outcome_substitute_eq_error substituted
    exact ⟨_, mem_names.2 ⟨chars, there, rfl⟩, fails⟩
  · cases last

end Substitute

/-- A text without a reference stays as it is. -/
theorem replaceIn_of_not_occursIn {value : String → String} {raw : String}
    (none : occursIn raw = false) : replaceIn value raw = raw := by
  have chars : ∀ piece ∈ pieces raw.toList, ¬ piece.isReference := by
    simpa [occursIn] using none
  have written : replace value (pieces raw.toList) = (pieces raw.toList).flatMap Piece.written := by
    refine List.flatMap_congr fun piece there => ?_
    cases piece with
    | char c => rfl
    | reference name => exact absurd rfl (chars _ there)
  rw [replaceIn, written, written_pieces, String.ofList_toList]

/-! ## Texts that are one reference -/

section OneReference

variable {raw name : String}

theorem names_of_pieces (only : pieces raw.toList = [.reference name.toList]) :
    names raw = [name] := by
  simp [names, only]

theorem occursIn_of_pieces (only : pieces raw.toList = [.reference name.toList]) :
    occursIn raw = true := by
  simp [occursIn, only, Piece.isReference]

theorem replaceIn_of_pieces (only : pieces raw.toList = [.reference name.toList])
    (value : String → String) : replaceIn value raw = value name := by
  simp [replaceIn, replace, only]

end OneReference

end Reference

/-! ## Properties -/

section Properties

variable {library : Library} {expand : String → Inquiry String} {bundle values : Entries String}

/-- Properties are expanded exactly when each of them is. -/
theorem exists_expandProperties_iff :
    (∃ values, outcome library (Substitution.expandProperties expand bundle) = .ok values) ↔
      ∀ entry ∈ bundle, ∃ text, outcome library (expand entry.2) = .ok text := by
  induction bundle with
  | nil => exact ⟨fun _ => nofun, fun _ => ⟨[], rfl⟩⟩
  | cons entry rest ih =>
    rw [List.forall_mem_cons, ← ih]
    constructor
    · rintro ⟨values, computed⟩
      obtain ⟨text, first, computed⟩ := outcome_bind_eq_ok.1 computed
      obtain ⟨others, behind, -⟩ := outcome_bind_eq_ok.1 computed
      exact ⟨⟨text, first⟩, others, behind⟩
    · rintro ⟨⟨text, first⟩, others, behind⟩
      exact ⟨_, outcome_bind_eq_ok.2 ⟨text, first, outcome_bind_eq_ok.2 ⟨others, behind, rfl⟩⟩⟩

/-- Under the name of a property stands its expanded text. -/
theorem exists_get?_of_expandProperties {property raw : String}
    (computed : outcome library (Substitution.expandProperties expand bundle) = .ok values)
    (there : bundle.get? property = some raw) :
    ∃ text, values.get? property = some text ∧ outcome library (expand raw) = .ok text := by
  induction bundle generalizing values with
  | nil => cases there
  | cons entry rest ih =>
    obtain ⟨text, first, computed⟩ := outcome_bind_eq_ok.1 computed
    obtain ⟨others, behind, last⟩ := outcome_bind_eq_ok.1 computed
    cases last
    rw [Entries.get?_cons] at there ⊢
    split at there
    · next same =>
      cases there
      exact ⟨text, if_pos same, first⟩
    · next other =>
      rw [if_neg other]
      exact ih behind there

end Properties

end DesignTokens
