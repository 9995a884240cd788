import DesignTokens.Proofs.Resolution.Braces

/-!
# Layers by themselves

The layers of a shadow are laid out as one text, and the references of that text are resolved in one
pass while the shadow is open. Where the texts of the layers are tidy, no reference reaches from one
text into another, so laying out and resolving can change places: the value has in each place what
the text of that place is resolved to by itself (`exists_raw_iff_becomes`,
`shadow_layers_independent`).
-/

namespace DesignTokens

open Inquiry Reference

/-- What becomes of a layer when `own` says what becomes of a text: its lengths, each with the unit
behind it, and its color. -/
inductive BecomesLayer (own : String → Except Failure String) (layer : ShadowLayer) : String → Prop
  | intro {x y blur spread color : String} : own layer.x = .ok x → own layer.y = .ok y →
      own layer.blur = .ok blur → own layer.spread = .ok spread →
      BecomesColor own layer.color color →
      BecomesLayer own layer (layer.spell x y blur spread color)

section Expand

variable {library : Library} {f : String → Inquiry String} {color part : String}

/-- A color in a call is expanded by itself. -/
theorem outcome_substituteIn_wrapRgb (tidy : Tidy color) :
    outcome library (substituteIn f (wrapRgb color)) = .ok part ↔
      ∃ text, outcome library (substituteIn f color) = .ok text ∧
        part = if startsWithRgb color then text else rgbCall text := by
  have opening : '{' ∉ ("rgb(" : String).toList := by decide
  have closing : '{' ∉ (")" : String).toList := by decide
  unfold wrapRgb
  split
  · simp
  · unfold rgbCall
    simp only [String.append_assoc, outcome_substituteIn_behind opening,
      outcome_substituteIn_append (tidy.not_crosses _), outcome_substituteIn_plain closing]
    constructor
    · rintro ⟨_, ⟨text, _, expanded, ⟨⟩, rfl⟩, rfl⟩
      exact ⟨text, expanded, rfl⟩
    · rintro ⟨text, expanded, rfl⟩
      exact ⟨_, ⟨text, _, expanded, rfl, rfl⟩, rfl⟩

theorem exists_color_iff_becomes (tidy : Tidy color) :
    (∃ raw, BecomesColor .ok color raw ∧ outcome library (substituteIn f raw) = .ok part) ↔
      BecomesColor (fun text => outcome library (substituteIn f text)) color part := by
  have plain (channels : Channels) :
      outcome library (substituteIn f (rgbCall channels.text)) = .ok (rgbCall channels.text) :=
    outcome_substituteIn_plain (braceFree_rgbCall (braceFree_channels channels)).1
  constructor
  · rintro ⟨raw, ⟨literal, read⟩ | ⟨other, occurs, ⟨⟩⟩ | ⟨other, none⟩, expanded⟩
    · cases (plain _).symm.trans expanded
      exact .literal literal read
    · obtain ⟨text, own, rfl⟩ := (outcome_substituteIn_wrapRgb tidy).1 expanded
      exact .reference other occurs own
    · cases (outcome_substituteIn_plain (tidy.braceFree none).1).symm.trans expanded
      exact .other other none
  · rintro (⟨literal, read⟩ | ⟨other, occurs, own⟩ | ⟨other, none⟩)
    · exact ⟨_, .literal literal read, plain _⟩
    · refine ⟨_, .reference other occurs rfl, ?_⟩
      exact (outcome_substituteIn_wrapRgb tidy).2 ⟨_, own, rfl⟩
    · exact ⟨_, .other other none, outcome_substituteIn_plain (tidy.braceFree none).1⟩

/-- A field with the unit behind it is expanded by itself. -/
theorem outcome_substituteIn_field {field behind : String} (tidy : Tidy field) :
    outcome library (substituteIn f (field ++ "px " ++ behind)) = .ok part ↔
      ∃ shown right, outcome library (substituteIn f field) = .ok shown ∧
        outcome library (substituteIn f behind) = .ok right ∧ part = shown ++ "px " ++ right := by
  have unit : '{' ∉ ("px " : String).toList := by decide
  rw [String.append_assoc, outcome_substituteIn_append (tidy.not_crosses _)]
  simp only [outcome_substituteIn_behind unit]
  constructor
  · rintro ⟨shown, _, first, ⟨right, last, rfl⟩, rfl⟩
    exact ⟨shown, right, first, last, (String.append_assoc ..).symm⟩
  · rintro ⟨shown, right, first, last, rfl⟩
    exact ⟨shown, _, first, ⟨right, last, rfl⟩, String.append_assoc ..⟩

/-- A layer that is laid out and then expanded is what becomes of it with its texts expanded by
themselves. -/
theorem exists_raw_iff_becomes {layer : ShadowLayer} {token : Option String}
    (tidy : ∀ text ∈ layer.texts, Tidy text) :
    (∃ raw, layer.raw token = .ok raw ∧ outcome library (substituteIn f raw) = .ok part) ↔
      BecomesLayer (fun text => outcome library (substituteIn f text)) layer part := by
  obtain ⟨color, fields⟩ := List.forall_mem_cons.1 tidy
  rw [ShadowLayer.exists_raw_iff_of_fields fun field there _ _ =>
    outcome_substituteIn_field (fields field there)]
  simp only [ShadowLayer.colorText_eq_ok_iff, exists_color_iff_becomes color]
  constructor
  · rintro ⟨_, _, _, _, _, x, y, blur, spread, becomes, rfl⟩
    exact .intro x y blur spread becomes
  · rintro ⟨x, y, blur, spread, becomes⟩
    exact ⟨_, _, _, _, _, x, y, blur, spread, becomes, rfl⟩

/-- Layers that are laid out, joined and expanded are what becomes of each with its texts expanded
by themselves, joined. -/
theorem outcome_shadowValue_iff_becomes {w : Token} {layers : List ShadowLayer} {result : String}
    (tidy : ∀ layer ∈ layers, ∀ text ∈ layer.texts, Tidy text) :
    outcome library (Substitution.shadowValue (substituteIn f) w layers) = .ok result ↔
      ∃ parts,
        List.Forall₂ (BecomesLayer fun text => outcome library (substituteIn f text)) layers parts ∧
        result = ", ".intercalate parts := by
  have each (parts : List String) :
      (∃ raws, layers.mapM (·.raw (some w.id)) = .ok raws ∧ List.Forall₂
        (fun raw part => outcome library (substituteIn f raw) = .ok part) raws parts) ↔
      List.Forall₂ (BecomesLayer fun text => outcome library (substituteIn f text)) layers parts :=
    Except.exists_mapM_forall₂_iff.trans
      (forall₂_congr_of_mem fun layer there _ => exists_raw_iff_becomes (tidy layer there))
  rw [outcome_shadowValue_eq_ok]
  constructor
  · rintro ⟨raws, laidOut, expanded⟩
    have separate := separate_of_tidy (tidy_of_raws tidy laidOut)
    obtain ⟨parts, related, rfl⟩ := (outcome_substituteIn_intercalate separate).1 expanded
    exact ⟨parts, (each parts).1 ⟨raws, laidOut, related⟩, rfl⟩
  · rintro ⟨parts, becomes, rfl⟩
    obtain ⟨raws, laidOut, related⟩ := (each parts).2 becomes
    have separate := separate_of_tidy (tidy_of_raws tidy laidOut)
    exact ⟨raws, laidOut, (outcome_substituteIn_intercalate separate).2 ⟨parts, related, rfl⟩⟩

/-- Something becomes of a color when it is a literal that is read, or else a text that is
expanded. -/
theorem exists_becomesColor_iff (tidy : Tidy color) :
    (∃ part, BecomesColor (fun text => outcome library (substituteIn f text)) color part) ↔
      (isHexLiteral color = true → ∃ channels, Channels.ofLiteral color = .ok channels) ∧
      (isHexLiteral color = false →
        ∃ text, outcome library (substituteIn f color) = .ok text) := by
  constructor
  · rintro ⟨_, ⟨literal, read⟩ | ⟨other, -, own⟩ | ⟨other, none⟩⟩
    · simp [literal, read]
    · simp [other, own]
    · simp [other, outcome_substituteIn_plain (tidy.braceFree none).1]
  · rintro ⟨read, own⟩
    cases literal : isHexLiteral color with
    | true =>
      obtain ⟨channels, read⟩ := read literal
      exact ⟨_, .literal literal read⟩
    | false =>
      obtain ⟨text, own⟩ := own literal
      cases occurs : occursIn color with
      | true => exact ⟨_, .reference literal occurs own⟩
      | false => exact ⟨_, .other literal occurs⟩

theorem exists_becomesLayer_iff {layer : ShadowLayer} (tidy : ∀ text ∈ layer.texts, Tidy text) :
    (∃ part, BecomesLayer (fun text => outcome library (substituteIn f text)) layer part) ↔
      (∀ field ∈ layer.fields, ∃ text, outcome library (substituteIn f field) = .ok text) ∧
      (isHexLiteral layer.color = true →
        ∃ channels, Channels.ofLiteral layer.color = .ok channels) ∧
      (isHexLiteral layer.color = false →
        ∃ text, outcome library (substituteIn f layer.color) = .ok text) := by
  obtain ⟨color, -⟩ := List.forall_mem_cons.1 tidy
  rw [← exists_becomesColor_iff color]
  simp only [ShadowLayer.fields, List.forall_mem_cons]
  constructor
  · rintro ⟨_, x, y, blur, spread, becomes⟩
    exact ⟨⟨⟨_, x⟩, ⟨_, y⟩, ⟨_, blur⟩, ⟨_, spread⟩, List.forall_mem_nil _⟩, _, becomes⟩
  · rintro ⟨⟨⟨_, x⟩, ⟨_, y⟩, ⟨_, blur⟩, ⟨_, spread⟩, -⟩, _, becomes⟩
    exact ⟨_, .intro x y blur spread becomes⟩

end Expand

/-- The value of a shadow is its layers, expanded while the shadow is open, and put into `calc` when
that is an expression. -/
theorem answer_value_shadow {library : Library} {s : Substitution} {w : Token}
    {layers : List ShadowLayer} (here : w ∈ library.tokens) (shadow : w.value = .shadow layers)
    (enough : library.tokens.length ≤ s.room) (nested : Bool) :
    answer library (s.value nested w) = answer library
      (wrapCalc <$> Substitution.shadowValue (s.expandAt s.room [w.id]) w layers) := by
  have opens : Opens library [w.id] := Opens.nil.snoc here List.not_mem_nil
  obtain ⟨room, full⟩ : ∃ room, s.room = room + 1 :=
    Nat.exists_eq_succ_of_ne_zero (by have := List.length_pos_of_mem here; omega)
  have opened : s.value nested w = Substitution.openValue (s.expandAt room [w.id]) w nested := by
    rw [Substitution.value, full, Substitution.valueAt, if_neg List.not_mem_nil]
    rfl
  have laid : Substitution.openValue (s.expandAt s.room [w.id]) w nested =
      wrapCalc <$> Substitution.shadowValue (s.expandAt s.room [w.id]) w layers :=
    openValue_shadow shadow
  rw [opened, ← laid]
  refine answer_openValue_congr fun text _ => answer_expandAt_room opens ?_ ?_
  · exact full ▸ enough
  · exact Nat.le_add_right_of_le enough

/-- The layers of a shadow are resolved independently of each other when their texts are tidy. What
the shadow is, before it is put into `calc` when it is an expression, is computed exactly when each
color that starts like a literal is one and every other text of every layer is resolved by itself
while the shadow is open, and then it is what becomes of each layer, joined. -/
theorem shadow_layers_independent (library : Library) (theme : Option String) (method : Method)
    {w : Token} (here : w ∈ library.tokens) {layers : List ShadowLayer}
    (shadow : w.value = .shadow layers) (tidy : w.Tidy) :
    let s := library.substitution method theme
    let own text := outcome library (s.expandAt s.room [w.id] text)
    let laid := Substitution.shadowValue (s.expandAt s.room [w.id]) w layers
    (∀ nested, answer library (s.value nested w) = answer library (wrapCalc <$> laid)) ∧
    ((∃ text, outcome library laid = .ok text) ↔
      ∀ layer ∈ layers,
        (∀ field ∈ layer.fields, ∃ text, own field = .ok text) ∧
        (isHexLiteral layer.color = true →
          ∃ channels, Channels.ofLiteral layer.color = .ok channels) ∧
        (isHexLiteral layer.color = false → ∃ text, own layer.color = .ok text)) ∧
    ∀ text, outcome library laid = .ok text ↔
      ∃ parts, List.Forall₂ (BecomesLayer own) layers parts ∧ text = ", ".intercalate parts := by
  intro s own laid
  simp only [Token.Tidy, Token.texts, shadow, List.forall_mem_flatMap] at tidy
  have becomes (text : String) : outcome library laid = .ok text ↔
      ∃ parts, List.Forall₂ (BecomesLayer own) layers parts ∧ text = ", ".intercalate parts :=
    outcome_shadowValue_iff_becomes tidy
  refine ⟨answer_value_shadow here shadow (Nat.le_refl _), ?_, becomes⟩
  calc (∃ text, outcome library laid = .ok text)
      ↔ ∃ parts, List.Forall₂ (BecomesLayer own) layers parts := by
        simp only [becomes]
        exact ⟨fun ⟨_, parts, each, _⟩ => ⟨parts, each⟩, fun ⟨parts, each⟩ => ⟨_, parts, each, rfl⟩⟩
    _ ↔ ∀ layer ∈ layers, ∃ part, BecomesLayer own layer part := exists_forall₂_iff
    _ ↔ _ := forall₂_congr fun layer there => exists_becomesLayer_iff (tidy layer there)

/-! ## Tiers -/

/-- Layers with a literal and with a reference for a color. -/
def tierLayers : List ShadowLayer :=
  [⟨"#102030", .drop, "{gap}{gap}", "0", "0", "0"⟩, ⟨"{ink}", .inner, "-{gap}", "1", "0", "0"⟩]

/-- A shadow of these layers. -/
def tiers : Library :=
  .ofTokens [.color "s.ink" "ink" "#000", .spacing "s.gap" "gap" "4",
    .boxShadow "s.tier" "tier" tierLayers] (by decide)

/-- Each tier has become what it is by itself. -/
theorem shadow_layers_independent_tiers :
    ∃ parts,
      List.Forall₂ (BecomesLayer fun text =>
        outcome tiers ((tiers.substitution .static none).expandAt 3 ["s.tier"] text))
        tierLayers parts ∧
      "44px 0px 0px 0px rgb(16, 32, 48), inset -4px 1px 0px 0px rgb(0, 0, 0)" =
        ", ".intercalate parts := by
  have here : Token.boxShadow "s.tier" "tier" tierLayers ∈ tiers.tokens := by decide
  obtain ⟨-, -, becomes⟩ := shadow_layers_independent tiers none .static here rfl (by decide)
  exact (becomes _).1 (by decide +kernel)

end DesignTokens
