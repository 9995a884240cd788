import DesignTokens.Proofs.Resolution.Answers
import DesignTokens.Substitution

/-!
# What a computation asks

A computation that resolves values asks about the active tokens of one theme, the theme of its
substitution. What follows from shared names it leaves to the library: it does not warn of them, and
it does not fail because of them. `Inquiry.AsksUnder themes` says both of a computation.

1. `answer_eq_of_asksUnder`: two libraries that agree under the themes asked about give one answer.
2. `asksUnder_valueAt` and the lemmas around it: everything that a substitution computes asks under
   the theme of the substitution.
-/

namespace DesignTokens

/-- A warning that several active tokens share a name. -/
def Warning.isSharedName : Warning → Bool
  | .sharedName .. => true
  | _ => false

/-- A name that is refused because several active tokens share it. -/
def Failure.isAmbiguous : Failure → Bool
  | .resolve (.ambiguous ..) => true
  | _ => false

namespace Inquiry

variable {α β : Type} {themes : Option String → Prop}

/-- The questions of a computation are about `themes` only, and shared names are left to the
library. -/
inductive AsksUnder (themes : Option String → Prop) : Inquiry α → Prop
  | done (a : α) : AsksUnder themes (.done a)
  | fail {failure : Failure} : failure.isAmbiguous = false → AsksUnder themes (.fail failure)
  | warn {warning : Warning} {next : Inquiry α} : warning.isSharedName = false →
      AsksUnder themes next → AsksUnder themes (.warn warning next)
  | active {theme : Option String} {next : List Token → Inquiry α} : themes theme →
      (∀ tokens, AsksUnder themes (next tokens)) → AsksUnder themes (.active theme next)
  | shared {theme : Option String} {next : NameIndex → Inquiry α} : themes theme →
      (∀ names, AsksUnder themes (next names)) → AsksUnder themes (.shared theme next)
  | find {theme : Option String} {name : String} {next : Option Token → Inquiry α} :
      themes theme → (∀ token, AsksUnder themes (next token)) →
      AsksUnder themes (.find theme name next)

/-- Libraries that agree under the themes asked about, and on whether names are strict, give one
answer. -/
theorem answer_eq_of_asksUnder {A B : Library} {x : Inquiry α} (asks : x.AsksUnder themes)
    (strict : A.strictNames = B.strictNames)
    (same : ∀ theme, themes theme → A.activeTokens theme = B.activeTokens theme) :
    answer A x = answer B x := by
  have sameIndex : ∀ theme, themes theme → A.nameIndex theme = B.nameIndex theme := by
    intro theme asked
    unfold Library.nameIndex
    rw [same theme asked]
  induction asks with
  | done a => rfl
  | fail clear => rfl
  | warn clear _ ih => simp only [answer, ih]
  | @active theme next asked _ ih =>
    rw [answer, answer, same theme asked]
    cases B.activeTokens theme with
    | error failure => rfl
    | ok tokens => exact ih tokens
  | @shared theme next asked _ ih =>
    rw [answer, answer, sameIndex theme asked]
    cases B.nameIndex theme with
    | error failure => rfl
    | ok index => exact ih index.shared
  | @find theme name next asked _ ih =>
    have found : A.find theme name = B.find theme name := by
      unfold Library.find
      rw [sameIndex theme asked, strict]
    rw [answer, answer, found]
    cases B.find theme name with
    | error failure => rfl
    | ok token => exact ih token

/-! ## Sequences -/

theorem AsksUnder.bind {x : Inquiry α} {f : α → Inquiry β} (first : x.AsksUnder themes)
    (second : ∀ a, (f a).AsksUnder themes) : (x >>= f).AsksUnder themes := by
  show (x.bind f).AsksUnder themes
  induction first with
  | done a => exact second a
  | fail clear => exact .fail clear
  | warn clear _ ih => exact .warn clear ih
  | active asked _ ih => exact .active asked ih
  | shared asked _ ih => exact .shared asked ih
  | find asked _ ih => exact .find asked ih

theorem asksUnder_pure (a : α) : (pure a : Inquiry α).AsksUnder themes := .done a

theorem asksUnder_lift {result : Except Failure α}
    (clear : ∀ failure, result = .error failure → failure.isAmbiguous = false) :
    (lift result).AsksUnder themes := by
  cases result with
  | ok a => exact .done a
  | error failure => exact .fail (clear failure rfl)

theorem asksUnder_mapM {xs : List α} {f : α → Inquiry β}
    (each : ∀ x ∈ xs, (f x).AsksUnder themes) : (xs.mapM f).AsksUnder themes := by
  induction xs with
  | nil => exact .done []
  | cons x rest ih =>
    rw [List.mapM_cons]
    refine (each x List.mem_cons_self).bind fun y => ?_
    exact (ih fun z there => each z (List.mem_cons_of_mem _ there)).bind fun _ => asksUnder_pure _

end Inquiry

open Inquiry

variable {themes : Option String → Prop}

/-! ## Failures that are no shared names -/

theorem isAmbiguous_of_channelsOf {literal : String} {token : Option String} {failure : Failure}
    (failed : channelsOf literal token = .error failure) : failure.isAmbiguous = false := by
  unfold channelsOf at failed
  split at failed <;> cases failed <;> rfl

theorem ShadowLayer.isAmbiguous_of_raw {layer : ShadowLayer} {token : Option String}
    {failure : Failure} (failed : layer.raw token = .error failure) :
    failure.isAmbiguous = false := by
  rcases Except.bind_eq_error.1 failed with colored | ⟨_, _, last⟩
  · unfold ShadowLayer.colorText at colored
    split at colored
    · exact isAmbiguous_of_channelsOf (Except.map_eq_error.1 colored)
    · split at colored <;> cases colored
  · cases last

theorem isAmbiguous_of_theme {library : Library} {name : String} {failure : Failure}
    (failed : library.theme name = .error failure) : failure.isAmbiguous = false := by
  unfold Library.theme at failed
  split at failed <;> cases failed
  rfl

/-! ## Values -/

section Values

variable {f : String → Inquiry String} {s : Substitution}

theorem Reference.asksUnder_substituteIn {text : String} (each : ∀ name, (f name).AsksUnder themes) :
    (Reference.substituteIn f text).AsksUnder themes := by
  have pieces : ∀ pieces, (Reference.substitute f pieces).AsksUnder themes := by
    intro pieces
    induction pieces with
    | nil => exact .done []
    | cons piece rest ih =>
      cases piece with
      | char c => exact ih.bind fun _ => asksUnder_pure _
      | reference name => exact (each _).bind fun _ => ih.bind fun _ => asksUnder_pure _
  exact (pieces _).bind fun _ => asksUnder_pure _

theorem asksUnder_reference {compute : Token → Inquiry String} {name : String}
    (asked : themes s.theme) (each : ∀ u, (compute u).AsksUnder themes) :
    (s.reference compute name).AsksUnder themes := by
  unfold Substitution.reference
  cases s.method with
  | customProperties => exact asksUnder_pure _
  | static =>
    refine .find asked fun token => ?_
    cases token with
    | none => exact .warn rfl (.done _)
    | some u =>
      show (if u.isBundle = true then _ else compute u : Inquiry String).AsksUnder themes
      split
      · exact .warn rfl (.done _)
      · exact each u

theorem asksUnder_openValue {u : Token} {nested : Bool} (each : ∀ text, (f text).AsksUnder themes) :
    (Substitution.openValue f u nested).AsksUnder themes := by
  unfold Substitution.openValue
  cases u.value with
  | plain raw =>
    refine AsksUnder.bind ?_ fun _ => asksUnder_pure _
    unfold Substitution.plainValue
    split
    · refine (each raw).bind fun value => ?_
      split <;> exact asksUnder_pure _
    · split
      · exact asksUnder_lift fun failure failed => isAmbiguous_of_channelsOf failed
      · exact asksUnder_pure _
  | shadow layers =>
    refine AsksUnder.bind ?_ fun _ => asksUnder_pure _
    refine AsksUnder.bind (asksUnder_lift fun failure failed => ?_) fun raws => each _
    obtain ⟨layer, -, failed⟩ := Except.mapM_eq_error failed
    exact ShadowLayer.isAmbiguous_of_raw failed
  | bundle properties => exact .fail rfl

/-- The value of a token asks under the theme of the substitution, as do all values inside it. -/
theorem asksUnder_valueAt (asked : themes s.theme) (room : Nat) (chain : List String)
    (nested : Bool) (u : Token) : (s.valueAt room chain nested u).AsksUnder themes := by
  induction room generalizing chain nested u with
  | zero => exact .fail rfl
  | succ room ih =>
    rw [Substitution.valueAt]
    split
    · exact .fail rfl
    · refine asksUnder_openValue fun text => ?_
      exact Reference.asksUnder_substituteIn fun name => asksUnder_reference asked fun v => ih _ _ v

theorem asksUnder_expandAt (asked : themes s.theme) (room : Nat) (chain : List String)
    (text : String) : (s.expandAt room chain text).AsksUnder themes :=
  Reference.asksUnder_substituteIn fun _ =>
    asksUnder_reference asked fun u => asksUnder_valueAt asked room chain true u

theorem asksUnder_resolve (asked : themes s.theme) (text : String) :
    (s.resolve text).AsksUnder themes :=
  asksUnder_expandAt asked _ _ text

theorem asksUnder_value (asked : themes s.theme) (nested : Bool) (u : Token) :
    (s.value nested u).AsksUnder themes :=
  asksUnder_valueAt asked _ _ nested u

theorem asksUnder_cssValue (asked : themes s.theme) (u : Token) :
    (s.cssValue u).AsksUnder themes := by
  refine (asksUnder_value asked false u).bind fun value => ?_
  cases s.method <;> exact asksUnder_pure _

theorem asksUnder_properties (asked : themes s.theme) (u : Token) (bundle : Entries String) :
    (s.properties u bundle).AsksUnder themes := by
  unfold Substitution.properties
  induction bundle with
  | nil => exact .done []
  | cons property rest ih =>
    refine (asksUnder_expandAt asked _ _ property.2).bind fun value => ?_
    exact ih.bind fun _ => asksUnder_pure _

end Values

end DesignTokens
