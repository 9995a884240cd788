import DesignTokens.Proofs.Library.Names
import DesignTokens.Proofs.Resolution.Answers
import DesignTokens.Substitution

/-!
# How a computation fails

A value under a theme of the library cannot be computed for four reasons: a color literal that is
none (with or without a digit for blue), a cycle, and a name that is refused. No theme, no set and
no token is ever missed, and no bundle is asked for a single value (`failsOnly_cssValue`,
`failsOnly_properties`).
-/

namespace DesignTokens

/-- A failure to compute a value, as against a name or an id that nothing has. -/
def Failure.isOfValue : Failure → Bool
  | .resolve (.invalidColor ..) | .resolve (.cyclic _) | .resolve (.ambiguous ..) => true
  | .noDigitForBlue _ => true
  | _ => false

namespace Inquiry

variable {α β : Type} {library : Library} {allowed : Failure → Bool}

/-- All failures that a computation can end with are allowed. -/
def FailsOnly (library : Library) (allowed : Failure → Bool) (x : Inquiry α) : Prop :=
  ∀ failure, outcome library x = .error failure → allowed failure = true

theorem FailsOnly.bind {x : Inquiry α} {f : α → Inquiry β} (first : x.FailsOnly library allowed)
    (second : ∀ a, outcome library x = .ok a → (f a).FailsOnly library allowed) :
    (x >>= f).FailsOnly library allowed := by
  intro failure failed
  rcases outcome_bind_eq_error.1 failed with here | ⟨a, computed, behind⟩
  · exact first failure here
  · exact second a computed failure behind

theorem failsOnly_of_ok {x : Inquiry α} {a : α} (computed : outcome library x = .ok a) :
    x.FailsOnly library allowed := by
  intro failure failed
  cases computed.symm.trans failed

theorem failsOnly_pure (a : α) : (pure a : Inquiry α).FailsOnly library allowed :=
  failsOnly_of_ok rfl

theorem failsOnly_fail {failure : Failure} (here : allowed failure = true) :
    (.fail failure : Inquiry α).FailsOnly library allowed := by
  intro other failed
  cases failed
  exact here

theorem failsOnly_lift {result : Except Failure α}
    (each : ∀ failure, result = .error failure → allowed failure = true) :
    (lift result).FailsOnly library allowed := by
  intro failure failed
  rw [outcome_lift] at failed
  exact each failure failed

theorem failsOnly_mapM {xs : List α} {f : α → Inquiry β}
    (each : ∀ x ∈ xs, (f x).FailsOnly library allowed) :
    (xs.mapM f).FailsOnly library allowed := by
  induction xs with
  | nil => exact failsOnly_pure []
  | cons x rest ih =>
    rw [List.mapM_cons]
    refine (each x List.mem_cons_self).bind fun y _ => ?_
    have behind := ih fun z there => each z (List.mem_cons_of_mem _ there)
    exact behind.bind fun _ _ => failsOnly_pure _

/-- Under a theme of the library, a name is refused when it is shared and for no other reason. -/
theorem failsOnly_named {theme : Option String} {active : List Token}
    (actives : library.activeTokens theme = .ok active) (name : String) :
    (named theme name).FailsOnly library Failure.isOfValue := by
  intro failure failed
  rw [outcome_named, Library.find_of_nameIndex (Library.nameIndex_of_active actives)] at failed
  unfold NameIndex.find at failed
  split at failed
  · cases failed
  · split at failed <;> cases failed
    rfl

end Inquiry

open Inquiry

/-- A computation fails for the reasons of a value only. -/
abbrev FailsAsValue {α : Type} (library : Library) (x : Inquiry α) : Prop :=
  x.FailsOnly library Failure.isOfValue

/-! ## Colors and names -/

/-- A color is refused as a literal that is none, or for want of a digit. -/
theorem channelsOf_eq_error_iff {literal : String} {token : Option String} {failure : Failure} :
    channelsOf literal token = .error failure ↔
      (Channels.ofLiteral literal = .error .notHexadecimal ∧
        failure = .resolve (.invalidColor literal token)) ∨
      (Channels.ofLiteral literal = .error .noDigitForBlue ∧
        failure = .noDigitForBlue literal) := by
  unfold channelsOf
  split
  · next read => simp [read]
  · next refused => simp [refused, eq_comm]
  · next refused => simp [refused, eq_comm]

theorem isOfValue_of_channelsOf {literal : String} {token : Option String} {failure : Failure}
    (failed : channelsOf literal token = .error failure) : failure.isOfValue = true := by
  rcases channelsOf_eq_error_iff.1 failed with ⟨-, rfl⟩ | ⟨-, rfl⟩ <;> rfl

/-- Only the color of a layer can keep it from being laid out. -/
theorem channelsOf_of_raw {layer : ShadowLayer} {token : Option String} {failure : Failure}
    (failed : layer.raw token = .error failure) : channelsOf layer.color token = .error failure := by
  rcases Except.bind_eq_error.1 failed with failed | ⟨_, _, last⟩
  · unfold ShadowLayer.colorText at failed
    split at failed
    · exact Except.map_eq_error.1 failed
    · split at failed <;> cases failed
  · cases last

/-- A name is refused under a theme that the library does not have, and where it is shared. -/
theorem Library.find_eq_error {library : Library} {theme : Option String} {name : String}
    {failure : Failure} (failed : library.find theme name = .error failure) :
    (∃ title, failure = .resolve (.unknownTheme title)) ∨
      ∃ candidates, failure = .resolve (.ambiguous name candidates) := by
  rcases Except.bind_eq_error.1 failed with unindexed | ⟨index, _, unfound⟩
  · have inactive := Except.map_eq_error.1 unindexed
    cases theme with
    | none => cases inactive
    | some title =>
      have unknown := Except.map_eq_error.1 inactive
      unfold Library.theme at unknown
      split at unknown <;> cases unknown
      exact .inl ⟨title, rfl⟩
  · unfold NameIndex.find at unfound
    split at unfound
    · cases unfound
    · split at unfound <;> cases unfound
      exact .inr ⟨_, rfl⟩

section Values

variable {library : Library} {f : String → Inquiry String} {s : Substitution}

theorem failsOnly_substituteIn {text : String} (each : ∀ name, FailsAsValue library (f name)) :
    FailsAsValue library (Reference.substituteIn f text) := by
  have pieces : ∀ pieces, FailsAsValue library (Reference.substitute f pieces) := by
    intro pieces
    induction pieces with
    | nil => exact failsOnly_pure []
    | cons piece rest ih =>
      cases piece with
      | char c => exact ih.bind fun _ _ => failsOnly_pure _
      | reference name => exact (each _).bind fun _ _ => ih.bind fun _ _ => failsOnly_pure _
  exact (pieces _).bind fun _ _ => failsOnly_pure _

/-- A bundle is never asked for a single value: its reference is broken instead. -/
theorem failsOnly_reference {active : List Token}
    (actives : library.activeTokens s.theme = .ok active) {compute : Token → Inquiry String}
    {name : String} (each : ∀ u, u.isBundle = false → FailsAsValue library (compute u)) :
    FailsAsValue library (s.reference compute name) := by
  unfold Substitution.reference
  cases s.method with
  | customProperties => exact failsOnly_pure _
  | static =>
    refine (failsOnly_named actives name).bind fun token _ => ?_
    cases token with
    | none => exact failsOnly_of_ok (a := brokenWord) rfl
    | some u =>
      dsimp only
      split
      next => exact failsOnly_of_ok (a := brokenWord) rfl
      next single => exact each u (Bool.eq_false_iff.2 single)

theorem failsOnly_openValue {u : Token} {nested : Bool} (single : u.isBundle = false)
    (each : ∀ text, FailsAsValue library (f text)) :
    FailsAsValue library (Substitution.openValue f u nested) := by
  unfold Substitution.openValue
  cases form : u.value with
  | plain raw =>
    refine FailsOnly.bind ?_ fun _ _ => failsOnly_pure _
    unfold Substitution.plainValue
    split
    · refine (each raw).bind fun value _ => ?_
      split <;> exact failsOnly_pure _
    · split
      · exact failsOnly_lift fun _ failed => isOfValue_of_channelsOf failed
      · exact failsOnly_pure _
  | shadow layers =>
    refine FailsOnly.bind ?_ fun _ _ => failsOnly_pure _
    refine (failsOnly_lift fun failure failed => ?_).bind fun raws _ => each _
    obtain ⟨layer, -, failed⟩ := Except.mapM_eq_error failed
    exact isOfValue_of_channelsOf (channelsOf_of_raw failed)
  | bundle properties =>
    unfold Token.isBundle at single
    rw [form] at single
    cases single

variable {active : List Token} (actives : library.activeTokens s.theme = .ok active)

include actives

theorem failsOnly_valueAt (room : Nat) (chain : List String) (nested : Bool) {u : Token}
    (single : u.isBundle = false) : FailsAsValue library (s.valueAt room chain nested u) := by
  induction room generalizing chain nested u with
  | zero => exact failsOnly_fail rfl
  | succ room ih =>
    rw [Substitution.valueAt]
    split
    · exact failsOnly_fail rfl
    · refine failsOnly_openValue single fun text => failsOnly_substituteIn fun name => ?_
      exact failsOnly_reference actives fun v single => ih _ _ single

theorem failsOnly_cssValue {u : Token} (single : u.isBundle = false) :
    FailsAsValue library (s.cssValue u) := by
  refine (failsOnly_valueAt actives _ _ _ single).bind fun value _ => ?_
  cases s.method <;> exact failsOnly_pure _

theorem failsOnly_properties (u : Token) (bundle : Entries String) :
    FailsAsValue library (s.properties u bundle) := by
  have expands : ∀ text, FailsAsValue library (s.expandAt s.room [u.id] text) := fun text =>
    failsOnly_substituteIn fun _ => failsOnly_reference actives fun v single =>
      failsOnly_valueAt actives _ _ _ single
  unfold Substitution.properties
  induction bundle with
  | nil => exact failsOnly_pure []
  | cons property rest ih =>
    exact (expands property.2).bind fun value _ => ih.bind fun _ _ => failsOnly_pure _

end Values

end DesignTokens
