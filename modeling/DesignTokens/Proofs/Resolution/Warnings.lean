import DesignTokens.Proofs.Resolution.Answers
import DesignTokens.Substitution

/-!
# What a computation warns of

A substitution warns of references that lead nowhere, and of nothing else
(`warnsOnly_cssValue`, `warnsOnly_properties`).
-/

namespace DesignTokens

/-- A warning about a reference that has no value. -/
def Warning.isOfReference : Warning → Bool
  | .brokenReference .. | .bundleReference .. => true
  | _ => false

namespace Inquiry

variable {α β : Type} {library : Library} {allowed : Warning → Bool}

/-- What a sequence leaves when its first computation succeeds. -/
theorem notes_bind {x : Inquiry α} {f : α → Inquiry β} {a : α}
    (computed : outcome library x = .ok a) :
    (answer library (x >>= f)).notes =
      (answer library x).notes ++ (answer library (f a)).notes := by
  rw [answer_bind]
  unfold outcome at computed
  generalize answer library x = before at computed ⊢
  obtain ⟨notes, failure | a⟩ := before <;> cases computed
  rfl

/-- All warnings that a computation leaves are allowed. -/
def WarnsOnly (library : Library) (allowed : Warning → Bool) (x : Inquiry α) : Prop :=
  ∀ warning ∈ (answer library x).notes, allowed warning = true

theorem WarnsOnly.bind {x : Inquiry α} {f : α → Inquiry β} (first : x.WarnsOnly library allowed)
    (second : ∀ a, (f a).WarnsOnly library allowed) : (x >>= f).WarnsOnly library allowed := by
  intro warning there
  rw [answer_bind] at there
  unfold WarnsOnly at first
  generalize answer library x = before at first there
  obtain ⟨notes, failure | a⟩ := before
  · exact first warning there
  · rcases List.mem_append.1 there with here | behind
    · exact first warning here
    · exact second a warning behind

theorem warnsOnly_pure (a : α) : (pure a : Inquiry α).WarnsOnly library allowed :=
  fun _ there => absurd there List.not_mem_nil

theorem warnsOnly_fail (failure : Failure) :
    (.fail failure : Inquiry α).WarnsOnly library allowed :=
  fun _ there => absurd there List.not_mem_nil

theorem warnsOnly_lift (result : Except Failure α) :
    (lift result).WarnsOnly library allowed := by
  cases result with
  | ok a => exact warnsOnly_pure a
  | error failure => exact warnsOnly_fail failure

theorem warnsOnly_leave {warning : Warning} (here : allowed warning = true) :
    (leave warning).WarnsOnly library allowed := by
  intro other there
  rw [List.mem_singleton.1 there]
  exact here

theorem warnsOnly_named (theme : Option String) (name : String) :
    (named theme name).WarnsOnly library allowed := by
  unfold WarnsOnly named
  rw [answer]
  cases library.find theme name <;> exact fun _ there => absurd there List.not_mem_nil

end Inquiry

open Inquiry

section Values

variable {library : Library} {f : String → Inquiry String} {s : Substitution}

/-- A computation warns of references only. -/
abbrev WarnsOfReferences {α : Type} (library : Library) (x : Inquiry α) : Prop :=
  x.WarnsOnly library Warning.isOfReference

theorem warnsOnly_substituteIn {text : String} (each : ∀ name, WarnsOfReferences library (f name)) :
    WarnsOfReferences library (Reference.substituteIn f text) := by
  have pieces : ∀ pieces, WarnsOfReferences library (Reference.substitute f pieces) := by
    intro pieces
    induction pieces with
    | nil => exact warnsOnly_pure []
    | cons piece rest ih =>
      cases piece with
      | char c => exact ih.bind fun _ => warnsOnly_pure _
      | reference name => exact (each _).bind fun _ => ih.bind fun _ => warnsOnly_pure _
  exact (pieces _).bind fun _ => warnsOnly_pure _

theorem warnsOnly_reference {compute : Token → Inquiry String} {name : String}
    (each : ∀ u, WarnsOfReferences library (compute u)) :
    WarnsOfReferences library (s.reference compute name) := by
  unfold Substitution.reference
  cases s.method with
  | customProperties => exact warnsOnly_pure _
  | static =>
    refine (warnsOnly_named s.theme name).bind fun token => ?_
    cases token with
    | none => exact WarnsOnly.bind (warnsOnly_leave rfl) fun _ => warnsOnly_pure _
    | some u =>
      dsimp only
      split
      · exact WarnsOnly.bind (warnsOnly_leave rfl) fun _ => warnsOnly_pure _
      · exact each u

theorem warnsOnly_openValue {u : Token} {nested : Bool}
    (each : ∀ text, WarnsOfReferences library (f text)) :
    WarnsOfReferences library (Substitution.openValue f u nested) := by
  unfold Substitution.openValue
  cases u.value with
  | plain raw =>
    refine WarnsOnly.bind ?_ fun _ => warnsOnly_pure _
    unfold Substitution.plainValue
    split
    · refine (each raw).bind fun value => ?_
      split <;> exact warnsOnly_pure _
    · split
      · exact warnsOnly_lift _
      · exact warnsOnly_pure _
  | shadow layers =>
    refine WarnsOnly.bind ?_ fun _ => warnsOnly_pure _
    exact (warnsOnly_lift _).bind fun raws => each _
  | bundle properties => exact warnsOnly_fail _

/-- The value of a token warns of references only, as do all values inside it. -/
theorem warnsOnly_valueAt (room : Nat) (chain : List String) (nested : Bool) (u : Token) :
    WarnsOfReferences library (s.valueAt room chain nested u) := by
  induction room generalizing chain nested u with
  | zero => exact warnsOnly_fail _
  | succ room ih =>
    rw [Substitution.valueAt]
    split
    · exact warnsOnly_fail _
    · refine warnsOnly_openValue fun text => ?_
      exact warnsOnly_substituteIn fun name => warnsOnly_reference fun v => ih _ _ v

theorem warnsOnly_cssValue (u : Token) : WarnsOfReferences library (s.cssValue u) := by
  refine (warnsOnly_valueAt _ _ _ u).bind fun value => ?_
  cases s.method <;> exact warnsOnly_pure _

theorem warnsOnly_properties (u : Token) (bundle : Entries String) :
    WarnsOfReferences library (s.properties u bundle) := by
  have expands : ∀ text, WarnsOfReferences library (s.expandAt s.room [u.id] text) := fun text =>
    warnsOnly_substituteIn fun _ => warnsOnly_reference fun v => warnsOnly_valueAt _ _ _ v
  unfold Substitution.properties
  induction bundle with
  | nil => exact warnsOnly_pure []
  | cons property rest ih =>
    exact (expands property.2).bind fun value => ih.bind fun _ => warnsOnly_pure _

end Values

end DesignTokens
