import DesignTokens.Proofs.Resolution.PlainAliases

/-!
# What the properties of a bundle refer to

A bundle is open while its properties are expanded, but no reference leads to a bundle. So each
property is its text resolved by itself (`outcome_expandAt_of_isBundle`), and a property that is one
reference is what the token is in other values. A color is nested there without its call of `rgb`,
and nothing puts the call back. So the property is what the token is written as by itself, unless
that is a color that gains a call of `rgb` (`property_is_nested_value`).
-/

namespace DesignTokens

open Inquiry Relation

variable {library : Library} {theme : Option String}

/-! ## Bundles are out of reach -/

theorem not_isBundle_of_reachable {u v : Token} (single : u.isBundle = false)
    (reaches : ReflTransGen (Refers library theme) u v) : v.isBundle = false := by
  cases reaches with
  | refl => exact single
  | tail _ refers =>
    obtain ⟨_, _, _, _, _, single⟩ := refers
    exact single

/-- A bundle that is open keeps nothing from being computed. -/
theorem clear_of_isBundle {t u : Token} (here : t ∈ library.tokens) (bundle : t.isBundle = true)
    (there : u ∈ library.tokens) (single : u.isBundle = false) : Clear library theme [t.id] u := by
  intro v reaches already
  have same := Library.eq_of_id_eq (mem_of_reachable there reaches) here
    (List.mem_singleton.1 already)
  rw [← same, not_isBundle_of_reachable single reaches] at bundle
  cases bundle

/-- Each property of a bundle is its text, resolved by itself. -/
theorem outcome_expandAt_of_isBundle {t : Token} {raw text : String} (here : t ∈ library.tokens)
    (bundle : t.isBundle = true) :
    outcome library ((library.substitution .static theme).expandAt library.tokens.length [t.id]
        raw) = .ok text ↔
      outcome library ((library.substitution .static theme).resolve raw) = .ok text := by
  -- When either of the two succeeds, the references lead to an end, and then the two are alike.
  have same {room : Nat} {chain : List String}
      (expanded : outcome library ((library.substitution .static theme).expandAt room chain raw) =
        .ok text) :
      outcome library ((library.substitution .static theme).expandAt library.tokens.length [t.id]
          raw) =
        outcome library ((library.substitution .static theme).resolve raw) := by
    have opens : Opens library [t.id] := Opens.nil.snoc here List.not_mem_nil
    refine outcome_congr (answer_expandAt_of_clear opens (Nat.le_add_right _ _) (Nat.le_refl _) ?_)
    intro name named u found single
    have ends := ends_of_outcome_expandAt Library.substitution_method expanded named found single
    exact ⟨ends, clear_of_isBundle here bundle (Library.mem_tokens_of_find found) single⟩
  constructor
  · intro expanded
    rwa [← same expanded]
  · intro resolved
    rwa [same resolved]

/-! ## Properties -/

section Properties

variable {bundle values : Entries String} {t : Token}

theorem isBundle_of_bundle (form : t.value = .bundle bundle) : t.isBundle = true := by
  simp [Token.isBundle, form, TokenValue.form]

/-- A bundle has its properties expanded exactly when the text of each is resolved. -/
theorem exists_properties_iff (here : t ∈ library.tokens) (form : t.value = .bundle bundle) :
    (∃ values, outcome library ((library.substitution .static theme).properties t bundle) =
        .ok values) ↔
      ∀ entry ∈ bundle, ∃ text,
        outcome library ((library.substitution .static theme).resolve entry.2) = .ok text := by
  refine exists_expandProperties_iff.trans (forall₂_congr fun entry _ => ?_)
  exact exists_congr fun text => outcome_expandAt_of_isBundle here (isBundle_of_bundle form)

theorem exists_get?_of_properties {property raw : String} (here : t ∈ library.tokens)
    (form : t.value = .bundle bundle)
    (computed : outcome library ((library.substitution .static theme).properties t bundle) =
      .ok values)
    (there : bundle.get? property = some raw) :
    ∃ text, values.get? property = some text ∧
      outcome library ((library.substitution .static theme).resolve raw) = .ok text := by
  obtain ⟨text, found, expanded⟩ := exists_get?_of_expandProperties computed there
  exact ⟨text, found, (outcome_expandAt_of_isBundle here (isBundle_of_bundle form)).1 expanded⟩

end Properties

/-! ## Nested and by itself -/

/-- The call of `rgb` is put around a token by itself that is not there when it is nested, where
arithmetic is in a call of `calc`. -/
def GainsRgb (x v : String) : Prop :=
  startsWithRgb x = false ∧
    (v = rgbCall x ∨ ∃ text, Calc.isExpression text = true ∧ x = calcCall text ∧ v = rgbCall text)

theorem GainsRgb.startsWithRgb {x v : String} (gains : GainsRgb x v) : startsWithRgb v = true := by
  obtain ⟨-, rfl | ⟨text, -, -, rfl⟩⟩ := gains
  · exact startsWithRgb_rgbCall _
  · exact startsWithRgb_rgbCall _

/-- A color by itself is as it is nested, unless it gains a call of `rgb`. -/
theorem Shown.eq_or_gainsRgb {x v : String} (shown : Shown x v) : x = v ∨ GainsRgb x v := by
  cases shown with
  | resolved text =>
    cases starts : startsWithRgb text with
    | true =>
      have other := not_isExpression_of_startsWithRgb starts
      rw [wrapCalc_of_not_isExpression other, wrapRgb_eq_self_iff.2 starts]
      exact .inl rfl
    | false =>
      rw [wrapRgb_of_not_startsWithRgb starts]
      refine .inr ?_
      cases accepted : Calc.isExpression text with
      | true =>
        refine ⟨(isCalcCall_wrapCalc accepted).not_startsWithRgb, .inr ⟨text, accepted, ?_, rfl⟩⟩
        exact wrapCalc_eq_calc_iff.2 accepted
      | false =>
        rw [wrapCalc_of_not_isExpression accepted]
        exact ⟨starts, .inl rfl⟩
  | literal =>
    cases triplet : isChannelTriplet x with
    | true =>
      rw [wrapColor_of_isChannelTriplet triplet]
      exact .inr ⟨not_startsWithRgb_of_isChannelTriplet triplet, .inl rfl⟩
    | false =>
      rw [wrapColor_of_not_isChannelTriplet triplet]
      exact .inl rfl

/-- A token that is written can be nested, and the two are the same unless it is a color. -/
theorem exists_nested {u : Token} {v : String} (here : u ∈ library.tokens)
    (written : outcome library ((library.substitution .static theme).cssValue u) = .ok v) :
    ∃ x, outcome library ((library.substitution .static theme).value true u) = .ok x ∧
      (x = v ∨ u.kind = .color ∧ GainsRgb x v) := by
  by_cases color : u.kind = .color
  · obtain ⟨x, computed, shown⟩ := exists_shown here color written
    exact ⟨x, computed, shown.eq_or_gainsRgb.imp_right fun gains => ⟨color, gains⟩⟩
  · rw [outcome_cssValue_other color, ← value_nested_of_not_color color] at written
    exact ⟨v, written, .inl rfl⟩

/-- A property of a bundle that is one reference is the token that it refers to as that is nested in
other values, whenever the other properties can be resolved. That is what the token is written as by
itself, unless this is a call of `rgb` around a color that is nested without one. -/
theorem property_is_nested_value (library : Library) (theme : Option String) {t : Token}
    (here : t ∈ library.tokens) {bundle : Entries String} (form : t.value = .bundle bundle)
    {property name : String} (isName : Reference.IsName name)
    (refers : bundle.get? property = some (Reference.braced name)) {u : Token}
    (found : library.find theme name = .ok (some u)) {v : String}
    (written : outcome library ((library.substitution .static theme).cssValue u) = .ok v) :
    let s := library.substitution .static theme
    ∃ x, outcome library (s.value true u) = .ok x ∧
      ((∃ values, outcome library (s.properties t bundle) = .ok values) ↔
        ∀ entry ∈ bundle, entry.1 ≠ property →
          ∃ text, outcome library (s.resolve entry.2) = .ok text) ∧
      (∀ values, outcome library (s.properties t bundle) = .ok values →
        values.get? property = some x) ∧
      (x = v ↔ (startsWithRgb v = true → startsWithRgb x = true)) ∧
      (x ≠ v → u.kind = .color ∧ GainsRgb x v) := by
  obtain ⟨x, computed, same⟩ := exists_nested (Library.mem_tokens_of_find found) written
  have stands : StandsFor library theme name x :=
    .token found (isBundle_of_value computed) computed
  have resolved := (outcome_resolve_braced isName).2 stands
  have distinct : bundle.keys.Nodup := by
    have distinct := t.distinct
    rwa [form] at distinct
  refine ⟨x, computed, ?_, fun values expanded => ?_, ?_, same.resolve_left⟩
  · rw [exists_properties_iff here form]
    refine ⟨fun all entry there _ => all entry there, fun others entry there => ?_⟩
    by_cases same : entry.1 = property
    · have read := Entries.get?_of_mem distinct there
      rw [same, refers] at read
      exact ⟨x, Option.some.inj read ▸ resolved⟩
    · exact others entry there same
  · obtain ⟨text, there, resolved'⟩ := exists_get?_of_properties here form expanded refers
    cases resolved.symm.trans resolved'
    exact there
  · rcases same with rfl | ⟨-, gains⟩
    · exact iff_of_true rfl id
    · refine iff_of_false (fun same => ?_) fun starts => ?_
      · exact absurd gains.1 (by simp [same, gains.startsWithRgb])
      · exact absurd gains.1 (by simp [starts gains.startsWithRgb])

/-! ## A card -/

/-- A composition of a color and a length. -/
def card : Token :=
  ⟨"s.card", "card", .composition, .bundle [("fill", "{brand}"), ("padding", "{gap}")], rfl,
    by decide⟩

/-- A card with the color and the length that it refers to. -/
def cards : Library :=
  .ofTokens [.color "s.brand" "brand" "#112233", .spacing "s.gap" "gap" "8px", card] (by decide)

namespace cards

theorem find_brand :
    cards.find none "brand" = .ok (some (.color "s.brand" "brand" "#112233")) := rfl

theorem isName_brand : Reference.IsName "brand" := ⟨by decide, by decide, by decide⟩

theorem cssValue_brand : outcome cards ((cards.substitution .static none).cssValue
    (.color "s.brand" "brand" "#112233")) = .ok "rgb(17, 34, 51)" := by
  decide +kernel

theorem properties_card : outcome cards ((cards.substitution .static none).properties card
    [("fill", "{brand}"), ("padding", "{gap}")]) =
      .ok [("fill", "17, 34, 51"), ("padding", "8px")] := by
  decide +kernel

end cards

/-- The fill of the card is the list of channels that the color has in other values. -/
theorem property_is_nested_value_cards :
    outcome cards ((cards.substitution .static none).value true
      (.color "s.brand" "brand" "#112233")) = .ok "17, 34, 51" := by
  have here : card ∈ cards.tokens := by decide
  have refers : Entries.get? [("fill", "{brand}"), ("padding", "{gap}")] "fill" =
      some (Reference.braced "brand") := rfl
  obtain ⟨x, computed, -, property, -⟩ := property_is_nested_value cards none here rfl
    cards.isName_brand refers cards.find_brand cards.cssValue_brand
  cases (property _ cards.properties_card).symm
  exact computed

/-- A property that is one reference is not always what the token is written as by itself. -/
theorem not_property_is_written_value :
    ¬ ∀ (library : Library) (theme : Option String) (t u : Token) (bundle values : Entries String)
      (property name v : String), t ∈ library.tokens → t.value = .bundle bundle →
      Reference.IsName name → bundle.get? property = some (Reference.braced name) →
      library.find theme name = .ok (some u) →
      outcome library ((library.substitution .static theme).cssValue u) = .ok v →
      outcome library ((library.substitution .static theme).properties t bundle) = .ok values →
      values.get? property = some v := by
  intro same
  have fill := same cards none card _ _ _ "fill" _ _ (by decide) rfl cards.isName_brand rfl
    cards.find_brand cards.cssValue_brand cards.properties_card
  exact absurd (Option.some.inj fill) (by decide)

end DesignTokens
