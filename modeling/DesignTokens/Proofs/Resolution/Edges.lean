import DesignTokens.Proofs.Resolution.Expansion
import DesignTokens.Proofs.Resolution.Failures
import Mathlib.Logic.Relation

/-!
# References between tokens

A token refers to the tokens that the names in its text stand for: `Refers library theme u v`. Those
are the tokens that its value opens next, so what `Substitution.valueAt` gives is known from one
token to the next:

1. `answer_valueAt_congr`: a value is fixed by the values of the tokens referred to.
2. `outcome_valueAt_eq_ok`: a value is computed only when the token is not open yet and the values
   of all tokens referred to are computed.
3. `outcome_valueAt_eq_error`: a failure is met at the token itself, which is open already, has a
   color that is refused or refers by a name that is refused, or at a token referred to. So a failure
   is a cycle, or it is met at a token that references lead to (`exists_failsHere_of_valueAt`).
-/

namespace DesignTokens

open Inquiry

/-- The text whose references a token's value substitutes. The text of a shadow is that of all its
layers, once they can be laid out. A bundle has none. -/
def Token.rawText? (token : Token) : Option String :=
  match token.value with
  | .plain raw => some raw
  | .shadow layers =>
    match layers.mapM (·.raw (some token.id)) with
    | .ok raws => some (", ".intercalate raws)
    | .error _ => none
  | .bundle _ => none

/-- Under `theme`, a name in the text of `u` stands for `v`, and `v` has a single value. -/
def Refers (library : Library) (theme : Option String) (u v : Token) : Prop :=
  ∃ text name, u.rawText? = some text ∧ name ∈ Reference.names text ∧
    library.find theme name = .ok (some v) ∧ v.isBundle = false

variable {library : Library} {theme : Option String}

theorem Refers.mem {u v : Token} (refers : Refers library theme u v) : v ∈ library.tokens := by
  obtain ⟨_, _, _, _, found, _⟩ := refers
  exact Library.mem_tokens_of_find found

/-! ## Failures that are met at a token -/

/-- The texts of a token that are read as colors when they are literals: its own, or those of its
layers. -/
def Token.colorTexts (token : Token) : List String :=
  match token.value with
  | .plain raw => if token.kind = .color then [raw] else []
  | .shadow layers => layers.map (·.color)
  | .bundle _ => []

/-- A failure that is met at a token, however it is asked for. -/
inductive FailsHere (library : Library) (theme : Option String) (u : Token) : Failure → Prop
  /-- A color of the token is refused. -/
  | color {text : String} {failure : Failure} : text ∈ u.colorTexts →
      channelsOf text (some u.id) = .error failure → FailsHere library theme u failure
  /-- A name is refused. -/
  | name {name : String} {failure : Failure} : library.find theme name = .error failure →
      FailsHere library theme u failure
  /-- The token has no single value. -/
  | bundle : FailsHere library theme u (.resolve (.noSingleValue u.kind u.id))

theorem FailsHere.ne_cyclic {u : Token} {failure : Failure}
    (fails : FailsHere library theme u failure) (chain : List String) :
    failure ≠ .resolve (.cyclic chain) := by
  cases fails with
  | color _ refused =>
    rcases channelsOf_eq_error_iff.1 refused with ⟨-, rfl⟩ | ⟨-, rfl⟩ <;> exact nofun
  | name refused =>
    rcases Library.find_eq_error refused with ⟨_, rfl⟩ | ⟨_, rfl⟩ <;> exact nofun
  | bundle => exact nofun

/-! ## What a reference becomes -/

@[simp] theorem Library.substitution_method {method : Method} :
    (library.substitution method theme).method = method := rfl

@[simp] theorem Library.substitution_theme {method : Method} :
    (library.substitution method theme).theme = theme := rfl

@[simp] theorem Library.substitution_room {method : Method} :
    (library.substitution method theme).room = library.tokens.length := rfl

section Reference

variable {s : Substitution} {f g : Token → Inquiry String} {name : String}

/-- A reference depends on the token that its name stands for, and on no other. -/
theorem answer_reference_congr
    (same : ∀ u, library.find s.theme name = .ok (some u) → u.isBundle = false →
      answer library (f u) = answer library (g u)) :
    answer library (s.reference f name) = answer library (s.reference g name) := by
  unfold Substitution.reference
  cases s.method with
  | customProperties => rfl
  | static =>
    show answer library (Inquiry.find s.theme name _) = answer library (Inquiry.find s.theme name _)
    rw [answer, answer]
    cases found : library.find s.theme name with
    | error failure => rfl
    | ok token =>
      cases token with
      | none => rfl
      | some u =>
        cases bundle : u.isBundle with
        | true => simp [Inquiry.bind, bundle]
        | false => simpa [Inquiry.bind, bundle] using same u found bundle

/-- In static form a reference becomes the value of the token that its name stands for, or the
broken word. -/
theorem outcome_reference (static : s.method = .static) :
    outcome library (s.reference f name) =
      match library.find s.theme name with
      | .error failure => .error failure
      | .ok none => .ok brokenWord
      | .ok (some u) => if u.isBundle then .ok brokenWord else outcome library (f u) := by
  unfold Substitution.reference
  rw [static]
  show outcome library (Inquiry.find s.theme name _) = _
  unfold outcome
  rw [answer]
  cases found : library.find s.theme name with
  | error failure => rfl
  | ok token =>
    cases token with
    | none => rfl
    | some u =>
      cases bundle : u.isBundle with
      | true => simp [Inquiry.bind, bundle]; rfl
      | false => simp [Inquiry.bind, bundle]

/-- A reference fails where its name is refused, or as the token that its name stands for. -/
theorem outcome_reference_eq_error {failure : Failure}
    (failed : outcome library (s.reference f name) = .error failure) :
    library.find s.theme name = .error failure ∨
      ∃ u, library.find s.theme name = .ok (some u) ∧ u.isBundle = false ∧
        outcome library (f u) = .error failure := by
  cases method : s.method with
  | customProperties =>
    unfold Substitution.reference at failed
    rw [method] at failed
    cases failed
  | static =>
    rw [outcome_reference method] at failed
    split at failed
    · next refused =>
      cases failed
      exact .inl refused
    · cases failed
    · next u found =>
      split at failed
      · cases failed
      · next single => exact .inr ⟨u, found, Bool.eq_false_iff.2 single, failed⟩

end Reference

/-! ## The value of a token that is opened -/

section OpenValue

variable {expand expand' : String → Inquiry String} {u v : Token} {nested : Bool}

/-- A value depends on the expansion of the token's text, and on no other. -/
theorem answer_openValue_congr
    (same : ∀ text, u.rawText? = some text →
      answer library (expand text) = answer library (expand' text)) :
    answer library (Substitution.openValue expand u nested) =
      answer library (Substitution.openValue expand' u nested) := by
  unfold Token.rawText? at same
  unfold Substitution.openValue
  cases form : u.value with
  | plain raw =>
    rw [form] at same
    refine answer_bind_congr ?_ fun _ => rfl
    unfold Substitution.plainValue
    split
    · exact answer_bind_congr (same raw rfl) fun _ => rfl
    · rfl
  | shadow layers =>
    rw [form] at same
    refine answer_bind_congr ?_ fun _ => rfl
    unfold Substitution.shadowValue
    cases laidOut : layers.mapM (·.raw (some u.id)) with
    | ok raws =>
      simp only [laidOut] at same
      exact same _ rfl
    | error failure => rfl
  | bundle properties => rfl

/-- A value is computed only when the token has a text, and the text, if it has a reference, can be
expanded. -/
theorem outcome_openValue_eq_ok {result : String}
    (computed : outcome library (Substitution.openValue expand u nested) = .ok result) :
    ∃ text, u.rawText? = some text ∧
      (Reference.occursIn text = true →
        ∃ expanded, outcome library (expand text) = .ok expanded) := by
  unfold Substitution.openValue at computed
  unfold Token.rawText?
  cases form : u.value with
  | plain raw =>
    rw [form] at computed
    obtain ⟨_, computed, -⟩ := outcome_bind_eq_ok.1 computed
    refine ⟨raw, rfl, fun occurs => ?_⟩
    rw [Substitution.plainValue, if_pos occurs] at computed
    obtain ⟨expanded, computed, -⟩ := outcome_bind_eq_ok.1 computed
    exact ⟨expanded, computed⟩
  | shadow layers =>
    rw [form] at computed
    obtain ⟨_, computed, -⟩ := outcome_bind_eq_ok.1 computed
    obtain ⟨raws, laidOut, computed⟩ := outcome_bind_eq_ok.1 computed
    rw [outcome_lift] at laidOut
    refine ⟨", ".intercalate raws, ?_, fun _ => ⟨_, computed⟩⟩
    simp only [laidOut]
  | bundle properties =>
    rw [form] at computed
    cases computed

/-- A value that is not computed fails at the token itself or in the expansion of its text. -/
theorem outcome_openValue_eq_error {failure : Failure}
    (failed : outcome library (Substitution.openValue expand u nested) = .error failure) :
    FailsHere library theme u failure ∨
      ∃ text, u.rawText? = some text ∧ outcome library (expand text) = .error failure := by
  unfold Substitution.openValue at failed
  unfold Token.rawText?
  cases form : u.value with
  | plain raw =>
    rw [form] at failed
    rcases outcome_bind_eq_error.1 failed with failed | ⟨_, _, last⟩
    · unfold Substitution.plainValue at failed
      split at failed
      · -- A text with a reference is expanded, and what is put around it cannot fail.
        rcases outcome_bind_eq_error.1 failed with failed | ⟨_, _, last⟩
        · exact .inr ⟨raw, rfl, failed⟩
        · split at last <;> cases last
      · split at failed
        · next literal =>
          rw [outcome_lift] at failed
          exact .inl (.color (by simp [Token.colorTexts, form, literal.1]) failed)
        · cases failed
    · cases last
  | shadow layers =>
    rw [form] at failed
    rcases outcome_bind_eq_error.1 failed with failed | ⟨_, _, last⟩
    · rcases outcome_bind_eq_error.1 failed with failed | ⟨raws, laidOut, failed⟩
      · rw [outcome_lift] at failed
        obtain ⟨layer, there, failed⟩ := Except.mapM_eq_error failed
        have listed : layer.color ∈ u.colorTexts := by
          rw [Token.colorTexts, form]
          exact List.mem_map_of_mem there
        exact .inl (.color listed (channelsOf_of_raw failed))
      · rw [outcome_lift] at laidOut
        refine .inr ⟨", ".intercalate raws, ?_, failed⟩
        simp only [laidOut]
    · cases last
  | bundle properties =>
    rw [form] at failed
    cases failed
    exact .inl .bundle

end OpenValue

/-! ## One token opens the next -/

section ValueAt

variable {s : Substitution} {u v : Token} {nested : Bool} {chain chain' : List String}
  {room room' : Nat}

/-- A token that is open already is reported, whatever the room. -/
theorem valueAt_of_mem (already : u.id ∈ chain) :
    s.valueAt room chain nested u = .fail (.resolve (.cyclic (chain ++ [u.id]))) := by
  cases room with
  | zero => rfl
  | succ room => rw [Substitution.valueAt, if_pos already]

/-- The value of a token that is not open is fixed by the values of the tokens that it refers to. -/
theorem answer_valueAt_congr (new : u.id ∉ chain) (new' : u.id ∉ chain')
    (same : ∀ v, Refers library s.theme u v →
      answer library (s.valueAt room (chain ++ [u.id]) true v) =
        answer library (s.valueAt room' (chain' ++ [u.id]) true v)) :
    answer library (s.valueAt (room + 1) chain nested u) =
      answer library (s.valueAt (room' + 1) chain' nested u) := by
  rw [Substitution.valueAt, if_neg new, Substitution.valueAt, if_neg new']
  refine answer_openValue_congr fun text raw => ?_
  refine Reference.answer_substituteIn_congr fun name named => ?_
  exact answer_reference_congr fun v found single => same v ⟨text, name, raw, named, found, single⟩

/-- A value is computed in static form only when the token is not open and the values of all tokens
that it refers to are computed. -/
theorem outcome_valueAt_eq_ok (static : s.method = .static) {result : String}
    (computed : outcome library (s.valueAt (room + 1) chain nested u) = .ok result) :
    u.id ∉ chain ∧ ∀ v, Refers library s.theme u v →
      ∃ text, outcome library (s.valueAt room (chain ++ [u.id]) true v) = .ok text := by
  rw [Substitution.valueAt] at computed
  split at computed
  · cases computed
  next new =>
    refine ⟨new, ?_⟩
    rintro v ⟨text, name, raw, named, found, single⟩
    obtain ⟨text', raw', expands⟩ := outcome_openValue_eq_ok computed
    cases raw.symm.trans raw'
    obtain ⟨expanded, computed⟩ := expands (Reference.occursIn_iff.2 ⟨name, named⟩)
    obtain ⟨result, computed⟩ :=
      Reference.exists_of_outcome_substituteIn_eq_ok computed name named
    rw [outcome_reference static, found] at computed
    exact ⟨result, by simpa [single] using computed⟩

/-- A value is not computed because the token is open already, because of a failure at the token
itself, or because a token that it refers to has no value. -/
theorem outcome_valueAt_eq_error {failure : Failure}
    (failed : outcome library (s.valueAt (room + 1) chain nested u) = .error failure) :
    (u.id ∈ chain ∧ failure = .resolve (.cyclic (chain ++ [u.id]))) ∨
      (u.id ∉ chain ∧ (FailsHere library s.theme u failure ∨
        ∃ v, Refers library s.theme u v ∧
          outcome library (s.valueAt room (chain ++ [u.id]) true v) = .error failure)) := by
  by_cases already : u.id ∈ chain
  · rw [valueAt_of_mem already] at failed
    cases failed
    exact .inl ⟨already, rfl⟩
  · refine .inr ⟨already, ?_⟩
    rw [Substitution.valueAt, if_neg already] at failed
    rcases outcome_openValue_eq_error failed with here | ⟨text, raw, failed⟩
    · exact .inl here
    obtain ⟨name, named, failed⟩ := Reference.outcome_substituteIn_eq_error failed
    rcases outcome_reference_eq_error failed with refused | ⟨v, found, single, failed⟩
    · exact .inl (.name refused)
    · exact .inr ⟨v, ⟨text, name, raw, named, found, single⟩, failed⟩

/-- What keeps a value from being computed is a cycle, or it is met at a token that references lead
to. -/
theorem exists_failsHere_of_valueAt {failure : Failure}
    (failed : outcome library (s.valueAt room chain nested u) = .error failure) :
    (∃ reported, failure = .resolve (.cyclic reported)) ∨
      ∃ v, Relation.ReflTransGen (Refers library s.theme) u v ∧
        FailsHere library s.theme v failure := by
  induction room generalizing chain nested u with
  | zero =>
    cases failed
    exact .inl ⟨_, rfl⟩
  | succ room ih =>
    rcases outcome_valueAt_eq_error failed with ⟨-, same⟩ | ⟨-, here | ⟨v, refers, failed⟩⟩
    · exact .inl ⟨_, same⟩
    · exact .inr ⟨u, .refl, here⟩
    · exact (ih failed).imp_right fun ⟨w, reaches, here⟩ => ⟨w, .head refers reaches, here⟩

end ValueAt

end DesignTokens
