import DesignTokens.Proofs.Reference
import DesignTokens.Proofs.Resolution.Composition

/-!
# References inside calls

A text is resolved piece by piece. So two texts in a row are resolved by themselves, unless a
reference begins in the one and ends in the other (`outcome_resolve_append`). A reference in a call,
as in `rgba({name}, 0.5)`, becomes what its name stands for, and what is in front of the call and
behind it is resolved by itself (`outcome_resolve_call`). Plain text around a reference stays as it
is (`outcome_resolve_around`).
-/

namespace DesignTokens

open Inquiry

namespace Reference

variable {library : Library} {f : String → Inquiry String}

/-- Pieces are expanded one part after another. -/
theorem substitute_append (front behind : List Piece) :
    substitute f (front ++ behind) = (do
      let left ← substitute f front
      let right ← substitute f behind
      return left ++ right) := by
  induction front with
  | nil => simp [substitute]
  | cons piece rest ih =>
    cases piece <;>
      simp only [List.cons_append, substitute, ih, LawfulMonad.bind_assoc, LawfulMonad.pure_bind,
        List.append_assoc]

theorem outcome_substitute_reference {name : List Char} {behind : List Piece} {result : List Char} :
    outcome library (substitute f (.reference name :: behind)) = .ok result ↔
      ∃ here right, outcome library (f (String.ofList name)) = .ok here ∧
        outcome library (substitute f behind) = .ok right ∧ result = here.toList ++ right := by
  constructor
  · intro expanded
    obtain ⟨here, first, expanded⟩ := outcome_bind_eq_ok.1 expanded
    obtain ⟨right, second, last⟩ := outcome_bind_eq_ok.1 expanded
    cases last
    exact ⟨here, right, first, second, rfl⟩
  · rintro ⟨here, right, first, second, rfl⟩
    exact outcome_bind_eq_ok.2 ⟨here, first, outcome_bind_eq_ok.2 ⟨right, second, rfl⟩⟩

/-- Characters are expanded to themselves. -/
theorem substitute_plain (text : List Char) : substitute f (text.map .char) = pure text := by
  induction text with
  | nil => rfl
  | cons c rest ih =>
    rw [List.map_cons, substitute, ih]
    rfl

theorem outcome_substituteIn_eq_ok {text result : String} :
    outcome library (substituteIn f text) = .ok result ↔
      outcome library (substitute f (pieces text.toList)) = .ok result.toList := by
  constructor
  · intro expanded
    obtain ⟨chars, substituted, last⟩ := outcome_bind_eq_ok.1 expanded
    cases last
    rwa [String.toList_ofList]
  · intro substituted
    refine outcome_bind_eq_ok.2 ⟨_, substituted, ?_⟩
    rw [String.ofList_toList]
    rfl

section Texts

variable {text front behind result : String}

/-- A text without an opening brace is expanded to itself. -/
theorem substituteIn_plain (plain : '{' ∉ text.toList) : substituteIn f text = pure text := by
  rw [substituteIn, pieces_of_plain plain, substitute_plain, LawfulMonad.pure_bind,
    String.ofList_toList]

theorem outcome_substituteIn_plain (plain : '{' ∉ text.toList) :
    outcome library (substituteIn f text) = .ok text := by
  rw [substituteIn_plain plain, outcome_pure]

/-- Two texts in a row are expanded one after the other, unless a reference begins in the one and
ends in the other. -/
theorem substituteIn_append (apart : ¬ Crosses front.toList behind.toList) :
    substituteIn f (front ++ behind) = (do
      let left ← substituteIn f front
      let right ← substituteIn f behind
      return left ++ right) := by
  simp only [substituteIn, String.toList_append, pieces_append_of_not_crosses apart,
    substitute_append, LawfulMonad.bind_assoc, LawfulMonad.pure_bind, String.ofList_append]

theorem outcome_substituteIn_append (apart : ¬ Crosses front.toList behind.toList) :
    outcome library (substituteIn f (front ++ behind)) = .ok result ↔
      ∃ left right, outcome library (substituteIn f front) = .ok left ∧
        outcome library (substituteIn f behind) = .ok right ∧ result = left ++ right := by
  rw [substituteIn_append apart]
  constructor
  · intro expanded
    obtain ⟨left, first, expanded⟩ := outcome_bind_eq_ok.1 expanded
    obtain ⟨right, second, last⟩ := outcome_bind_eq_ok.1 expanded
    cases last
    exact ⟨left, right, first, second, rfl⟩
  · rintro ⟨left, right, first, second, rfl⟩
    exact outcome_bind_eq_ok.2 ⟨left, first, outcome_bind_eq_ok.2 ⟨right, second, rfl⟩⟩

/-- Plain text in front of a text stays as it is. -/
theorem outcome_substituteIn_behind (plain : '{' ∉ front.toList) :
    outcome library (substituteIn f (front ++ behind)) = .ok result ↔
      ∃ right, outcome library (substituteIn f behind) = .ok right ∧ result = front ++ right := by
  rw [outcome_substituteIn_append (not_crosses_of_plain plain)]
  constructor
  · rintro ⟨left, right, first, second, rfl⟩
    cases (outcome_substituteIn_plain plain).symm.trans first
    exact ⟨right, second, rfl⟩
  · rintro ⟨right, second, rfl⟩
    exact ⟨front, right, outcome_substituteIn_plain plain, second, rfl⟩

end Texts

end Reference

section Resolve

variable {library : Library} {theme : Option String} {name : String}

/-- One text stands for a name at most. -/
theorem StandsFor.unique {text text' : String} (stands : StandsFor library theme name text)
    (stands' : StandsFor library theme name text') : text = text' :=
  Except.ok.inj ((outcome_reference_eq_ok.2 stands).symm.trans (outcome_reference_eq_ok.2 stands'))

/-- A token that is found and has a single value stands for that. -/
theorem standsFor_iff_of_find {u : Token} {text : String}
    (found : library.find theme name = .ok (some u)) (single : u.isBundle = false) :
    StandsFor library theme name text ↔
      outcome library ((library.substitution .static theme).value true u) = .ok text := by
  refine ⟨fun stands => ?_, .token found single⟩
  cases stands with
  | token found' _ computed =>
    cases found.symm.trans found'
    exact computed
  | nothing found' => cases found.symm.trans found'
  | bundle found' bundle =>
    cases found.symm.trans found'
    rw [single] at bundle
    cases bundle

/-- A text without an opening brace is resolved to itself. -/
theorem resolve_plain {s : Substitution} {text : String} (plain : '{' ∉ text.toList) :
    s.resolve text = pure text :=
  Reference.substituteIn_plain plain

theorem outcome_resolve_plain {s : Substitution} {text : String} (plain : '{' ∉ text.toList) :
    outcome library (s.resolve text) = .ok text := by
  rw [resolve_plain plain, outcome_pure]

/-- Two texts in a row are resolved by themselves, unless a reference begins in the one and ends in
the other. -/
theorem outcome_resolve_append {s : Substitution} {front behind result : String}
    (apart : ¬ Reference.Crosses front.toList behind.toList) :
    outcome library (s.resolve (front ++ behind)) = .ok result ↔
      ∃ left right, outcome library (s.resolve front) = .ok left ∧
        outcome library (s.resolve behind) = .ok right ∧ result = left ++ right :=
  Reference.outcome_substituteIn_append apart

/-- Plain text in front of a text stays as it is. -/
theorem outcome_resolve_behind {s : Substitution} {front behind result : String}
    (plain : '{' ∉ front.toList) :
    outcome library (s.resolve (front ++ behind)) = .ok result ↔
      ∃ right, outcome library (s.resolve behind) = .ok right ∧ result = front ++ right :=
  Reference.outcome_substituteIn_behind plain

/-- A text that is one reference is resolved to what its name stands for, and to nothing else. -/
theorem outcome_resolve_braced {text : String} (isName : Reference.IsName name) :
    outcome library ((library.substitution .static theme).resolve (Reference.braced name)) =
      .ok text ↔ StandsFor library theme name text := by
  have only := Reference.pieces_braced isName
  refine ⟨fun resolved => ?_, outcome_resolve_of_pieces only⟩
  obtain ⟨value, stands, rfl⟩ := outcome_resolve_eq_ok.1 resolved
  rw [Reference.replaceIn_of_pieces only]
  exact stands name (by simp [Reference.names_of_pieces only])

/-- A reference in front of a text becomes what its name stands for. -/
theorem outcome_resolve_braced_append {behind result : String} (isName : Reference.IsName name) :
    outcome library ((library.substitution .static theme).resolve
      (Reference.braced name ++ behind)) = .ok result ↔
      ∃ here right, StandsFor library theme name here ∧
        outcome library ((library.substitution .static theme).resolve behind) = .ok right ∧
        result = here ++ right := by
  have cut : Reference.pieces (Reference.braced name ++ behind).toList =
      .reference name.toList :: Reference.pieces behind.toList := by
    rw [String.toList_append, Reference.toList_braced, List.append_assoc]
    exact Reference.pieces_around isName [] behind.toList
  unfold Substitution.resolve Substitution.expandAt
  simp only [Reference.outcome_substituteIn_eq_ok, cut, Reference.outcome_substitute_reference,
    String.ofList_toList]
  constructor
  · rintro ⟨here, right, referred, last, whole⟩
    refine ⟨here, String.ofList right, outcome_reference_eq_ok.1 referred, by simpa using last, ?_⟩
    exact String.toList_injective (by simp [whole, String.toList_append])
  · rintro ⟨here, right, stands, last, rfl⟩
    exact ⟨here, right.toList, outcome_reference_eq_ok.2 stands, last, String.toList_append⟩

/-- A reference in a call becomes what its name stands for, and the texts around the call are
resolved by themselves. -/
theorem outcome_resolve_call {front opening closing behind result : String}
    (isName : Reference.IsName name) (plain : '{' ∉ opening.toList) (unclosed : '}' ∉ opening.toList)
    (plain' : '{' ∉ closing.toList) :
    outcome library ((library.substitution .static theme).resolve
      (front ++ opening ++ Reference.braced name ++ closing ++ behind)) = .ok result ↔
      ∃ left here right,
        outcome library ((library.substitution .static theme).resolve front) = .ok left ∧
        StandsFor library theme name here ∧
        outcome library ((library.substitution .static theme).resolve behind) = .ok right ∧
        result = left ++ opening ++ here ++ closing ++ right := by
  have apart : ¬ Reference.Crosses front.toList
      (opening ++ (Reference.braced name ++ (closing ++ behind))).toList := by
    rw [String.toList_append, String.toList_append, Reference.toList_braced]
    exact Reference.not_crosses_of_opening unclosed
  simp only [String.append_assoc, outcome_resolve_append apart, outcome_resolve_behind plain,
    outcome_resolve_braced_append isName, outcome_resolve_behind plain']
  constructor
  · rintro ⟨left, _, first, ⟨_, ⟨here, _, stands, ⟨right, last, rfl⟩, rfl⟩, rfl⟩, rfl⟩
    exact ⟨left, here, right, first, stands, last, rfl⟩
  · rintro ⟨left, here, right, first, stands, last, rfl⟩
    exact ⟨left, _, first, ⟨_, ⟨here, _, stands, ⟨right, last, rfl⟩, rfl⟩, rfl⟩, rfl⟩

/-- A text with one reference gets what the name stands for in the place of that. -/
theorem outcome_resolve_around {front behind text : String} (isName : Reference.IsName name)
    (plain : '{' ∉ front.toList) (plain' : '{' ∉ behind.toList)
    (stands : StandsFor library theme name text) :
    outcome library ((library.substitution .static theme).resolve
      (front ++ Reference.braced name ++ behind)) = .ok (front ++ text ++ behind) := by
  rw [String.append_assoc, outcome_resolve_behind plain, String.append_assoc]
  refine ⟨_, ?_, rfl⟩
  exact (outcome_resolve_braced_append isName).2
    ⟨text, behind, stands, outcome_resolve_plain plain', rfl⟩

end Resolve

end DesignTokens
