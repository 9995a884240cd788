import DesignTokens.Proofs.Resolution.Aliases
import DesignTokens.Proofs.Resolution.Shadows
import DesignTokens.Proofs.Resolution.Wrapping

/-!
# What a reference to a color is written as

A color is nested in another value without its call of `rgb`, so whatever refers to it puts the call
back (`color_reference_puts_rgb`): an alias does unless the nested value starts with `rgb`, and the
layer of a shadow does in any case. For lists of channels that gives what the color itself is written
as. For other literals it does not: a named color gets a call of `rgb` around its name
(`not_written_as_color`).
-/

namespace DesignTokens

open Inquiry

/-! ## Calls of `rgb` and of `calc` -/

section Calls

variable {text : String}

theorem not_startsWithRgb_of_isExpression (accepted : Calc.isExpression text = true) :
    startsWithRgb text = false := by
  refine Bool.eq_false_iff.2 fun starts => ?_
  rw [not_isExpression_of_startsWithRgb starts] at accepted
  cases accepted

theorem isCalcCall_wrapCalc (accepted : Calc.isExpression text = true) :
    IsCalcCall (wrapCalc text) :=
  ⟨text, wrapCalc_eq_calc_iff.2 accepted, accepted⟩

theorem wrapCalc_ne (accepted : Calc.isExpression text = true) : wrapCalc text ≠ text := by
  rw [wrapCalc_eq_calc_iff.2 accepted]
  exact calc_ne text

theorem not_isCalcCall (other : Calc.isExpression text = false) : ¬ IsCalcCall text :=
  fun call => by simp [call.isExpression] at other

theorem IsCalcCall.not_startsWithRgb (call : IsCalcCall text) : startsWithRgb text = false :=
  not_startsWithRgb_of_isExpression call.isExpression

theorem IsCalcCall.not_isChannelTriplet (call : IsCalcCall text) :
    isChannelTriplet text = false := by
  obtain ⟨inner, rfl, -⟩ := call
  rw [isChannelTriplet, toList_calc]
  rfl

end Calls

/-! ## A color in other values and by itself -/

/-- What a color is nested in other values as, and what it is written as by itself. -/
inductive Shown : String → String → Prop
  /-- A color whose text has a reference, by its resolved text. -/
  | resolved (text : String) : Shown (wrapCalc text) (wrapRgb text)
  /-- A literal. -/
  | literal (text : String) : Shown text (Substitution.wrapColor .color text)

namespace Shown

variable {x v : String}

/-- An alias of a color is written as the color when that is a call of `rgb` and no arithmetic. -/
theorem wrapRgb_eq_iff (shown : Shown x v) :
    wrapRgb x = v ↔ startsWithRgb v = true ∧ ¬ IsCalcCall x := by
  cases shown with
  | resolved text =>
    cases accepted : Calc.isExpression text with
    | true =>
      -- The alias has `calc` inside its call of `rgb`, and the color by itself has not.
      have call := isCalcCall_wrapCalc accepted
      refine iff_of_false (fun same => ?_) fun shown => shown.2 call
      have other := not_startsWithRgb_of_isExpression accepted
      rw [wrapRgb_of_not_startsWithRgb call.not_startsWithRgb, wrapRgb_of_not_startsWithRgb other]
        at same
      exact wrapCalc_ne accepted (rgbCall_injective same)
    | false =>
      rw [wrapCalc_of_not_isExpression accepted]
      exact iff_of_true rfl ⟨startsWithRgb_wrapRgb text, not_isCalcCall accepted⟩
  | literal =>
    cases triplet : isChannelTriplet x with
    | true =>
      rw [wrapColor_of_isChannelTriplet triplet]
      have other := not_startsWithRgb_of_isChannelTriplet triplet
      refine iff_of_true (wrapRgb_of_not_startsWithRgb other) ⟨startsWithRgb_rgbCall x, ?_⟩
      exact fun call => absurd call.not_isChannelTriplet (by simp [triplet])
    | false =>
      rw [wrapColor_of_not_isChannelTriplet triplet, wrapRgb_eq_self_iff]
      exact ⟨fun starts => ⟨starts, fun call => absurd call.not_startsWithRgb (by simp [starts])⟩,
        And.left⟩

/-- A layer of a color is written with the color when that has got its call of `rgb` by itself. -/
theorem rgbCall_eq_iff (shown : Shown x v) : rgbCall x = v ↔ v ≠ x ∧ ¬ IsCalcCall x := by
  cases shown with
  | resolved text =>
    cases accepted : Calc.isExpression text with
    | true =>
      refine iff_of_false (fun same => ?_) fun shown => shown.2 (isCalcCall_wrapCalc accepted)
      have other := not_startsWithRgb_of_isExpression accepted
      rw [wrapRgb_of_not_startsWithRgb other] at same
      exact wrapCalc_ne accepted (rgbCall_injective same)
    | false =>
      rw [wrapCalc_of_not_isExpression accepted, Ne, wrapRgb_eq_self_iff]
      cases starts : startsWithRgb text with
      | true =>
        rw [wrapRgb_eq_self_iff.2 starts]
        exact iff_of_false (rgbCall_ne text) fun shown => shown.1 rfl
      | false =>
        rw [wrapRgb_of_not_startsWithRgb starts]
        exact iff_of_true rfl ⟨nofun, not_isCalcCall accepted⟩
  | literal =>
    cases triplet : isChannelTriplet x with
    | true =>
      rw [wrapColor_of_isChannelTriplet triplet]
      refine iff_of_true rfl ⟨rgbCall_ne x, fun call => ?_⟩
      exact absurd call.not_isChannelTriplet (by simp [triplet])
    | false =>
      rw [wrapColor_of_not_isChannelTriplet triplet]
      exact iff_of_false (rgbCall_ne x) fun shown => shown.1 rfl

end Shown

/-! ## Where a color is referred to -/

section Color

variable {library : Library} {theme : Option String} {u w : Token} {raw v result : String}

/-- A color is a single text. -/
theorem exists_plain_of_color (color : u.kind = .color) : ∃ raw, u.value = .plain raw := by
  have fits := u.fits
  rw [color] at fits
  cases value : u.value with
  | plain raw => exact ⟨raw, rfl⟩
  | shadow layers => rw [value] at fits; cases fits
  | bundle properties => rw [value] at fits; cases fits

/-- A color without a reference has one value, nested or not. -/
theorem openValue_of_not_occursIn {expand : String → Inquiry String} (plain : u.value = .plain raw)
    (none : Reference.occursIn raw = false) :
    Substitution.openValue expand u true = Substitution.openValue expand u false := by
  simp only [Substitution.openValue, plain, Substitution.plainValue, none, Bool.false_eq_true,
    if_false]

/-- A color that is written can be nested. -/
theorem exists_shown (here : u ∈ library.tokens) (color : u.kind = .color)
    (written : outcome library ((library.substitution .static theme).cssValue u) = .ok v) :
    ∃ x, outcome library ((library.substitution .static theme).value true u) = .ok x ∧
      Shown x v := by
  obtain ⟨raw, plain⟩ := exists_plain_of_color color
  cases occurs : Reference.occursIn raw with
  | true =>
    obtain ⟨text, resolved, rfl⟩ := (outcome_cssValue_color here color plain occurs).1 written
    refine ⟨_, (outcome_value_eq_ok here plain occurs).2 ⟨text, resolved, rfl⟩, ?_⟩
    rw [finished_eq, if_neg fun alone => Bool.noConfusion alone.2]
    exact .resolved text
  | false =>
    obtain ⟨x, computed, rfl⟩ := outcome_cssValue_eq_ok.1 written
    refine ⟨x, ?_, color ▸ .literal x⟩
    rw [outcome_value_eq_ok_iff_open here, openValue_of_not_occursIn plain occurs,
      ← outcome_value_eq_ok_iff_open here]
    exact computed

end Color

/-- Whatever refers to a color puts a call of `rgb` around the color as it is nested: an alias where
there is none yet, and the layer of a shadow in any case. So an alias is written as the color itself
exactly when the color is written as a call of `rgb` and is no arithmetic, and a layer is written
with the color itself exactly when that gets its call of `rgb` only where it is not nested. -/
theorem color_reference_puts_rgb (library : Library) (theme : Option String) {name : String}
    (isName : Reference.IsName name) {u : Token} {v : String}
    (found : library.find theme name = .ok (some u)) (color : u.kind = .color)
    (written : outcome library ((library.substitution .static theme).cssValue u) = .ok v) :
    ∃ x, outcome library ((library.substitution .static theme).value true u) = .ok x ∧
      (∀ w ∈ library.tokens, w.kind = .color → w.value = .plain (Reference.braced name) →
        outcome library ((library.substitution .static theme).cssValue w) = .ok (wrapRgb x)) ∧
      (wrapRgb x = v ↔ startsWithRgb v = true ∧ ¬ IsCalcCall x) ∧
      (∀ w ∈ library.tokens, ∀ before layer after, w.value = .shadow (before ++ layer :: after) →
        layer.color = Reference.braced name → ∀ result,
        (outcome library ((library.substitution .static theme).cssValue w) = .ok result ↔
          LaysOut library (library.substitution .static theme) w.id before layer after (rgbCall x)
            result)) ∧
      (rgbCall x = v ↔ v ≠ x ∧ ¬ IsCalcCall x) := by
  obtain ⟨x, computed, shown⟩ := exists_shown (Library.mem_tokens_of_find found) color written
  have stands : StandsFor library theme name x :=
    .token found (isBundle_of_value computed) computed
  refine ⟨x, computed, ?_, shown.wrapRgb_eq_iff, ?_, shown.rgbCall_eq_iff⟩
  · intro w here color plain
    have only := Reference.pieces_braced isName
    have occurs := Reference.occursIn_of_pieces only
    have resolved := outcome_resolve_of_pieces only stands
    exact (outcome_cssValue_color here color plain occurs).2 ⟨x, resolved, rfl⟩
  · intro w here before layer after shadow refers result
    exact outcome_cssValue_shadow here shadow isName refers stands

/-! ## Colors that are no lists of channels -/

/-- A layer with a reference to a translucent black. -/
def overlayLayer : ShadowLayer :=
  ⟨"{overlay}", .drop, "0", "2", "4", "0"⟩

/-- A named color with an alias, and a call of `rgba` with a shadow. -/
def overlays : Library :=
  .ofTokens [.color "s.clear" "clear" "transparent", .color "s.alias" "alias" "{clear}",
    .color "s.overlay" "overlay" "rgba(0, 0, 0, 0.5)", .boxShadow "s.shade" "shade" [overlayLayer]]
    (by decide)

namespace overlays

theorem isName_clear : Reference.IsName "clear" := ⟨by decide, by decide, by decide⟩

theorem isName_overlay : Reference.IsName "overlay" := ⟨by decide, by decide, by decide⟩

theorem find_clear :
    overlays.find none "clear" = .ok (some (.color "s.clear" "clear" "transparent")) := rfl

theorem find_overlay :
    overlays.find none "overlay" =
      .ok (some (.color "s.overlay" "overlay" "rgba(0, 0, 0, 0.5)")) := rfl

theorem cssValue_clear :
    outcome overlays ((overlays.substitution .static none).cssValue
      (.color "s.clear" "clear" "transparent")) = .ok "transparent" := by
  decide +kernel

theorem cssValue_overlay :
    outcome overlays ((overlays.substitution .static none).cssValue
      (.color "s.overlay" "overlay" "rgba(0, 0, 0, 0.5)")) = .ok "rgba(0, 0, 0, 0.5)" := by
  decide +kernel

theorem mem_alias : Token.color "s.alias" "alias" "{clear}" ∈ overlays.tokens := by decide

theorem mem_shade : Token.boxShadow "s.shade" "shade" [overlayLayer] ∈ overlays.tokens := by decide

end overlays

/-- The alias and the layer have their references in calls of `rgb`. -/
theorem color_reference_puts_rgb_overlays :
    outcome overlays ((overlays.substitution .static none).cssValue
      (.color "s.alias" "alias" "{clear}")) = .ok "rgb(transparent)" ∧
    LaysOut overlays (overlays.substitution .static none) "s.shade" [] overlayLayer []
      "rgb(rgba(0, 0, 0, 0.5))" "0px 2px 4px 0px rgb(rgba(0, 0, 0, 0.5))" := by
  constructor
  · obtain ⟨x, computed, aliases, -⟩ := color_reference_puts_rgb overlays none
      overlays.isName_clear overlays.find_clear rfl overlays.cssValue_clear
    have nested : outcome overlays ((overlays.substitution .static none).value true
        (.color "s.clear" "clear" "transparent")) = .ok "transparent" := by decide +kernel
    cases nested.symm.trans computed
    exact aliases _ overlays.mem_alias rfl rfl
  · obtain ⟨x, computed, -, -, layers, -⟩ := color_reference_puts_rgb overlays none
      overlays.isName_overlay overlays.find_overlay rfl overlays.cssValue_overlay
    have nested : outcome overlays ((overlays.substitution .static none).value true
        (.color "s.overlay" "overlay" "rgba(0, 0, 0, 0.5)")) = .ok "rgba(0, 0, 0, 0.5)" := by
      decide +kernel
    cases nested.symm.trans computed
    refine (layers _ overlays.mem_shade [] overlayLayer [] rfl rfl _).1 ?_
    decide +kernel

/-- A reference to a color is not always written as the color, neither by an alias nor by the layer
of a shadow. -/
theorem not_written_as_color :
    (¬ ∀ (library : Library) (theme : Option String) (name : String) (u : Token) (v : String),
      Reference.IsName name → library.find theme name = .ok (some u) → u.kind = .color →
      outcome library ((library.substitution .static theme).cssValue u) = .ok v →
      ∀ w ∈ library.tokens, w.kind = .color → w.value = .plain (Reference.braced name) →
        outcome library ((library.substitution .static theme).cssValue w) = .ok v) ∧
    ¬ ∀ (library : Library) (theme : Option String) (name : String) (u : Token) (v : String),
      Reference.IsName name → library.find theme name = .ok (some u) → u.kind = .color →
      outcome library ((library.substitution .static theme).cssValue u) = .ok v →
      ∀ w ∈ library.tokens, ∀ before layer after, w.value = .shadow (before ++ layer :: after) →
        layer.color = Reference.braced name → ∀ result,
        outcome library ((library.substitution .static theme).cssValue w) = .ok result →
          LaysOut library (library.substitution .static theme) w.id before layer after v
            result := by
  constructor
  · intro same
    have clear := same overlays none "clear" _ _ overlays.isName_clear overlays.find_clear rfl
      overlays.cssValue_clear _ overlays.mem_alias rfl rfl
    have wrapped : outcome overlays ((overlays.substitution .static none).cssValue
        (.color "s.alias" "alias" "{clear}")) = .ok "rgb(transparent)" := by decide +kernel
    exact absurd (Except.ok.inj (wrapped.symm.trans clear)) (by decide)
  · intro same
    have twice : outcome overlays ((overlays.substitution .static none).cssValue
        (.boxShadow "s.shade" "shade" [overlayLayer])) =
          .ok "0px 2px 4px 0px rgb(rgba(0, 0, 0, 0.5))" := by decide +kernel
    obtain ⟨fronts, backs, left, right, before, after, front, behind, whole⟩ :=
      same overlays none "overlay" _ _ overlays.isName_overlay overlays.find_overlay rfl
        overlays.cssValue_overlay _ overlays.mem_shade [] overlayLayer [] rfl rfl _ twice
    cases before
    cases after
    have lengths : outcome overlays ((overlays.substitution .static none).resolve
        (", ".intercalate ([] ++ [overlayLayer.lengths]))) = .ok "0px 2px 4px 0px" := by
      decide +kernel
    have nothing : outcome overlays ((overlays.substitution .static none).resolve
        (String.join (([] : List String).map (", " ++ ·)))) = .ok "" := by decide +kernel
    cases lengths.symm.trans front
    cases nothing.symm.trans behind
    exact absurd whole (by decide)

end DesignTokens
