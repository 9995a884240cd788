import DesignTokens.Proofs.Resolution.PlainAliases

/-!
# The lengths of shadows

A layer of a shadow is laid out with `px` behind each of its four fields as they stand, and the
references are resolved afterwards. So a field that is a number, or refers to one, becomes a number
with its unit, while a field that has the unit already gets it a second time
(`shadow_appends_unit`). All layers are resolved as one text. Each is resolved by itself as long as
no name in braces begins in one layer and ends in another one (`Separate`).
-/

namespace DesignTokens

open Inquiry

/-! ## Numbers and lengths -/

/-- The sign of a number, which may be missing. -/
def IsSign (text : List Char) : Prop :=
  text = [] ∨ text = ['+'] ∨ text = ['-']

/-- The exponent of a number, which may be missing. -/
inductive IsExponent : List Char → Prop
  | none : IsExponent []
  | power {letter : Char} {sign digits : List Char} : letter = 'e' ∨ letter = 'E' → IsSign sign →
      digits ≠ [] → (∀ c ∈ digits, Calc.isDigit c) → IsExponent (letter :: (sign ++ digits))

/-- The text of a number. -/
def IsNumber (text : String) : Prop :=
  ∃ sign magnitude exponent, text.toList = sign ++ magnitude ++ exponent ∧ IsSign sign ∧
    Calc.IsMagnitude magnitude ∧ IsExponent exponent

/-- A number with the unit behind it, once. -/
def IsLength (text : String) : Prop :=
  ∃ number, IsNumber number ∧ text = number ++ "px"

section Texts

variable {text : String}

theorem chars_of_isNumber (number : IsNumber text) :
    ∀ c ∈ text.toList, Calc.isNumberChar c ∨ c ∈ ['+', '-', 'e', 'E'] := by
  obtain ⟨sign, magnitude, exponent, spelled, isSign, isMagnitude, isExponent⟩ := number
  have signs {sign : List Char} (isSign : IsSign sign) : ∀ c ∈ sign, c = '+' ∨ c = '-' := by
    rcases isSign with rfl | rfl | rfl <;> simp
  intro c there
  rw [spelled, List.mem_append, List.mem_append] at there
  rcases there with (there | there) | there
  · rcases signs isSign c there with rfl | rfl <;> exact .inr (by decide)
  · exact .inl (isMagnitude.numberChars c there)
  · cases isExponent with
    | none => cases there
    | power letter isSign _ digits =>
      rcases List.mem_cons.1 there with rfl | there
      · rcases letter with rfl | rfl <;> exact .inr (by decide)
      · rcases List.mem_append.1 there with there | there
        · rcases signs isSign c there with rfl | rfl <;> exact .inr (by decide)
        · exact .inl (by simp [Calc.isNumberChar, digits c there])

theorem chars_of_isNumber_or_isLength (measure : IsNumber text ∨ IsLength text) :
    ∀ c ∈ text.toList, Calc.isNumberChar c ∨ c ∈ ['+', '-', 'e', 'E', 'p', 'x'] := by
  have wider {c : Char} (there : c ∈ ['+', '-', 'e', 'E']) :
      c ∈ ['+', '-', 'e', 'E', 'p', 'x'] := List.mem_append_left ['p', 'x'] there
  intro c there
  rcases measure with number | ⟨text, number, rfl⟩
  · exact (chars_of_isNumber number c there).imp_right wider
  · rw [String.toList_append, List.mem_append] at there
    rcases there with there | there
    · exact (chars_of_isNumber number c there).imp_right wider
    · exact .inr (List.mem_append_right ['+', '-', 'e', 'E'] there)

/-- A text with the unit behind it is a length only when the text has no unit yet. -/
theorem isLength_append_iff : IsLength (text ++ "px") ↔ IsNumber text := by
  refine ⟨?_, fun number => ⟨text, number, rfl⟩⟩
  rintro ⟨number, isNumber, same⟩
  have chars := congrArg String.toList same
  rw [String.toList_append, String.toList_append] at chars
  exact String.toList_injective (List.append_cancel_right chars) ▸ isNumber

theorem IsLength.not_isNumber (length : IsLength text) : ¬ IsNumber text := by
  obtain ⟨number, -, rfl⟩ := length
  intro twice
  have unit : 'p' ∈ (number ++ "px").toList := by simp [String.toList_append]
  exact absurd (chars_of_isNumber twice _ unit) (by decide)

end Texts

/-! ## Fields -/

/-- What a field of a layer shows: itself when it is a number or a length, and the value of a single
text that it refers to when that is one. -/
inductive Measures (library : Library) (theme : Option String) : String → String → Prop
  | literal {field : String} : IsNumber field ∨ IsLength field →
      Measures library theme field field
  | reference {name raw shown : String} {u : Token} : Reference.IsName name →
      library.find theme name = .ok (some u) → u.value = .plain raw →
      outcome library ((library.substitution .static theme).value false u) = .ok shown →
      IsNumber shown ∨ IsLength shown → Measures library theme (Reference.braced name) shown

section Fields

variable {library : Library} {theme : Option String} {field shown behind result : String}

theorem Measures.measure (measures : Measures library theme field shown) :
    IsNumber shown ∨ IsLength shown := by
  cases measures with
  | literal measure => exact measure
  | reference _ _ _ _ measure => exact measure

theorem Measures.blank_not_mem (measures : Measures library theme field shown) :
    ' ' ∉ shown.toList :=
  fun there => absurd (chars_of_isNumber_or_isLength measures.measure _ there) (by decide)

/-- A token whose value is a number or a length has it in other values too. -/
theorem outcome_value_nested_of_measure {u : Token} {raw : String} (here : u ∈ library.tokens)
    (plain : u.value = .plain raw)
    (computed : outcome library ((library.substitution .static theme).value false u) = .ok shown)
    (measure : IsNumber shown ∨ IsLength shown) :
    outcome library ((library.substitution .static theme).value true u) = .ok shown := by
  by_cases color : u.kind = .color
  · cases occurs : Reference.occursIn raw with
    | true =>
      -- By itself the color would have a call of `rgb` around it.
      obtain ⟨text, -, rfl⟩ := (outcome_value_eq_ok here plain occurs).1 computed
      rw [color, finished_color] at measure
      obtain ⟨rest, spelled⟩ := exists_of_startsWithRgb (startsWithRgb_wrapRgb text)
      have letter : 'r' ∈ (wrapRgb text).toList := by simp [spelled]
      exact absurd (chars_of_isNumber_or_isLength measure _ letter) (by decide)
    | false =>
      rw [outcome_value_eq_ok_iff_open here, openValue_of_not_occursIn plain occurs,
        ← outcome_value_eq_ok_iff_open here]
      exact computed
  · rw [value_nested_of_not_color color]
    exact computed

/-- A field with the unit behind it becomes what it shows with the unit behind that. -/
theorem outcome_resolve_field (measures : Measures library theme field shown) :
    outcome library ((library.substitution .static theme).resolve (field ++ "px " ++ behind)) =
        .ok result ↔
      ∃ right, outcome library ((library.substitution .static theme).resolve behind) = .ok right ∧
        result = shown ++ "px " ++ right := by
  have unit : '{' ∉ ("px " : String).toList := by decide
  cases measures with
  | literal measure =>
    have plain : '{' ∉ (field ++ "px ").toList := by
      rw [String.toList_append, List.mem_append]
      rintro (there | there)
      · exact absurd (chars_of_isNumber_or_isLength measure _ there) (by decide)
      · exact unit there
    exact outcome_resolve_behind plain
  | @reference name raw _ u isName found plain computed measure =>
    have here := Library.mem_tokens_of_find found
    have nested := outcome_value_nested_of_measure here plain computed measure
    have stands : StandsFor library theme name shown :=
      .token found (isBundle_of_value computed) nested
    rw [String.append_assoc, outcome_resolve_braced_append isName]
    simp only [outcome_resolve_behind unit]
    constructor
    · rintro ⟨here, _, stands', ⟨right, last, rfl⟩, rfl⟩
      cases stands.unique stands'
      exact ⟨right, last, (String.append_assoc ..).symm⟩
    · rintro ⟨right, last, rfl⟩
      exact ⟨shown, _, stands, ⟨right, last, rfl⟩, String.append_assoc ..⟩

/-- A field shows one text at most. -/
theorem Measures.unique {other : String} (measures : Measures library theme field shown)
    (measures' : Measures library theme field other) : other = shown := by
  have nothing : outcome library ((library.substitution .static theme).resolve "") = .ok "" :=
    outcome_resolve_plain List.not_mem_nil
  have first := (outcome_resolve_field measures).2 ⟨"", nothing, rfl⟩
  have second := (outcome_resolve_field measures').2 ⟨"", nothing, rfl⟩
  have same := congrArg String.toList (Except.ok.inj (second.symm.trans first))
  simp only [String.toList_append, List.append_cancel_right_eq] at same
  exact String.toList_injective same

end Fields

/-! ## Layers -/

/-- A layer as it is written: with what its fields show, each with the unit behind it, and with its
resolved color. -/
inductive ShowsLayer (library : Library) (theme : Option String) (token : String)
    (layer : ShadowLayer) : String → Prop
  | intro {x y blur spread raw color : String} : Measures library theme layer.x x →
      Measures library theme layer.y y → Measures library theme layer.blur blur →
      Measures library theme layer.spread spread → layer.colorText (some token) = .ok raw →
      outcome library ((library.substitution .static theme).resolve raw) = .ok color →
      ShowsLayer library theme token layer (layer.spell x y blur spread color)

section Layers

variable {library : Library} {theme : Option String} {token part : String} {layer : ShadowLayer}
  {layers : List ShadowLayer}

/-- Where its fields show numbers or lengths, the text of a layer is resolved by resolving the color
in it. -/
theorem exists_raw_iff
    (measured : ∀ field ∈ layer.fields, ∃ shown, Measures library theme field shown) :
    (∃ raw, layer.raw (some token) = .ok raw ∧
        outcome library ((library.substitution .static theme).resolve raw) = .ok part) ↔
      ShowsLayer library theme token layer part := by
  refine (ShadowLayer.exists_raw_iff_of_fields (R := Measures library theme)
    fun field there behind result => ?_).trans ?_
  · obtain ⟨shown, measures⟩ := measured field there
    refine (outcome_resolve_field measures).trans ⟨?_, ?_⟩
    · rintro ⟨right, last, rfl⟩
      exact ⟨shown, right, measures, last, rfl⟩
    · rintro ⟨other, right, measures', last, rfl⟩
      cases measures.unique measures'
      exact ⟨right, last, rfl⟩
  · constructor
    · rintro ⟨_, _, _, _, _, hx, hy, hblur, hspread, ⟨raw, colored, resolved⟩, rfl⟩
      exact .intro hx hy hblur hspread colored resolved
    · rintro ⟨hx, hy, hblur, hspread, colored, resolved⟩
      exact ⟨_, _, _, _, _, hx, hy, hblur, hspread, ⟨_, colored, resolved⟩, rfl⟩

theorem exists_raws_iff {parts : List String}
    (measured : ∀ layer ∈ layers, ∀ field ∈ layer.fields, ∃ shown,
      Measures library theme field shown) :
    (∃ raws, layers.mapM (·.raw (some token)) = .ok raws ∧
        List.Forall₂ (fun raw part => outcome library
          ((library.substitution .static theme).resolve raw) = .ok part) raws parts) ↔
      List.Forall₂ (ShowsLayer library theme token) layers parts :=
  Except.exists_mapM_forall₂_iff.trans
    (forall₂_congr_of_mem fun layer there _ => exists_raw_iff (measured layer there))

end Layers

/-! ## Values of shadows -/

/-- The blank between two lengths belongs to no operator. -/
theorem not_isExpression_of_spell {layer : ShadowLayer} {x y blur spread color : String}
    (blank : ' ' ∉ y.toList) (behind : String) :
    Calc.isExpression (layer.spell x y blur spread color ++ behind) = false := by
  have unit : ("px " : String).toList = ['p', 'x', ' '] := rfl
  have spelled : (layer.spell x y blur spread color ++ behind).toList =
      (layer.inset.toList ++ x.toList ++ ['p', 'x']) ++ ' ' :: (y.toList ++ 'p' :: ('x' :: ' ' ::
        ((blur ++ "px " ++ (spread ++ "px " ++ color)).toList ++ behind.toList))) := by
    simp [ShadowLayer.spell_eq, String.toList_append, unit]
  refine Calc.not_isExpression_of_blank spelled ?_
  rintro (⟨operator, rest, same⟩ | ⟨operator, start, same⟩)
  · cases letters : y.toList with
    | nil =>
      rw [letters] at same
      cases operator <;> cases same
    | cons first letters' =>
      rw [letters] at same blank
      cases letters' with
      | nil => cases operator <;> cases same
      | cons second letters' =>
        obtain ⟨-, same⟩ := List.cons.inj same
        obtain ⟨rfl, -⟩ := List.cons.inj same
        simp at blank
  · have last := congrArg List.getLast? same
    cases operator <;> simp [Calc.BinaryOperator.char] at last

theorem not_isExpression_of_forall₂ {library : Library} {theme : Option String} {token : String}
    {layers : List ShadowLayer} {parts : List String}
    (shows : List.Forall₂ (ShowsLayer library theme token) layers parts) :
    Calc.isExpression (", ".intercalate parts) = false := by
  cases shows with
  | nil => decide +kernel
  | cons first behind =>
    obtain ⟨_, measures, _, _, _, _⟩ := first
    rw [intercalate_cons]
    exact not_isExpression_of_spell measures.blank_not_mem _

/-- Where every field of a shadow is a number or a length, or refers to one, and no name in braces
reaches from one layer into another, the shadow has a value exactly when its colors are resolved:
its layers, with the unit behind what each field shows. A field shows one text. With the unit behind
it, that is a length when it is a number, and none when it is a length already. -/
theorem shadow_appends_unit (library : Library) (theme : Option String) {w : Token}
    (here : w ∈ library.tokens) {layers : List ShadowLayer} (shadow : w.value = .shadow layers)
    (measured : ∀ layer ∈ layers, ∀ field ∈ layer.fields, ∃ shown,
      Measures library theme field shown)
    (separate : ∀ raws, layers.mapM (·.raw (some w.id)) = .ok raws → Separate raws)
    (nested : Bool) :
    (∀ result, outcome library ((library.substitution .static theme).value nested w) = .ok result ↔
      ∃ parts, List.Forall₂ (ShowsLayer library theme w.id) layers parts ∧
        result = ", ".intercalate parts) ∧
    ∀ field shown, Measures library theme field shown →
      (∀ other, Measures library theme field other → other = shown) ∧
      (IsNumber shown ∧ IsLength (shown ++ "px") ∨
        IsLength shown ∧ ¬ IsLength (shown ++ "px")) := by
  refine ⟨fun result => ?_, fun field shown measures => ⟨fun other => measures.unique, ?_⟩⟩
  · rw [outcome_value_eq_ok_iff_open here, outcome_openValue_shadow shadow]
    constructor
    · rintro ⟨raws, text, laidOut, resolved, rfl⟩
      obtain ⟨parts, resolves, rfl⟩ :=
        (outcome_resolve_intercalate (separate raws laidOut)).1 resolved
      have shows := (exists_raws_iff measured).1 ⟨raws, laidOut, resolves⟩
      exact ⟨parts, shows, wrapCalc_of_not_isExpression (not_isExpression_of_forall₂ shows)⟩
    · rintro ⟨parts, shows, rfl⟩
      obtain ⟨raws, laidOut, resolves⟩ := (exists_raws_iff measured).2 shows
      refine ⟨raws, _, laidOut,
        (outcome_resolve_intercalate (separate raws laidOut)).2 ⟨parts, resolves, rfl⟩, ?_⟩
      exact (wrapCalc_of_not_isExpression (not_isExpression_of_forall₂ shows)).symm
  · rw [isLength_append_iff]
    rcases measures.measure with number | length
    · exact .inl ⟨number, number⟩
    · exact .inr ⟨length, length.not_isNumber⟩

/-! ## A glow -/

/-- Layers with fields of every form. -/
def glowLayers : List ShadowLayer :=
  [⟨"{ink}", .inner, "{gap}", "2", "{wide}", "-1.5px"⟩, ⟨"red", .drop, "0", "0", "0", "0"⟩]

/-- A shadow with the color and the lengths that it refers to. -/
def glows : Library :=
  .ofTokens [.color "s.ink" "ink" "#000", .spacing "s.gap" "gap" "4",
    .spacing "s.wide" "wide" "2px", .boxShadow "s.glow" "glow" glowLayers] (by decide)

namespace glows

theorem isNumber_digit {c : Char} (digit : Calc.isDigit c) : IsNumber (String.ofList [c]) :=
  ⟨[], [c], [], by simp, .inl rfl, .whole (List.cons_ne_nil _ _) (by simpa using digit), .none⟩

theorem isLength_two : IsLength "2px" := ⟨"2", isNumber_digit (c := '2') rfl, rfl⟩

theorem isLength_spread : IsLength "-1.5px" := by
  refine ⟨"-1.5", ⟨['-'], ['1'] ++ '.' :: ['5'], [], rfl, .inr (.inr rfl), ?_, .none⟩, rfl⟩
  exact .fraction (List.forall_mem_singleton.2 rfl) (List.cons_ne_nil _ _)
    (List.forall_mem_singleton.2 rfl)

theorem gap : Measures glows none "{gap}" "4" := by
  have isName : Reference.IsName "gap" := ⟨by decide, by decide, by decide⟩
  have found : glows.find none "gap" = .ok (some (.spacing "s.gap" "gap" "4")) := rfl
  exact .reference isName found rfl (by decide +kernel) (.inl (isNumber_digit (c := '4') rfl))

theorem wide : Measures glows none "{wide}" "2px" := by
  have isName : Reference.IsName "wide" := ⟨by decide, by decide, by decide⟩
  have found : glows.find none "wide" = .ok (some (.spacing "s.wide" "wide" "2px")) := rfl
  exact .reference isName found rfl (by decide +kernel) (.inr isLength_two)

theorem measured : ∀ layer ∈ glowLayers, ∀ field ∈ layer.fields, ∃ shown,
    Measures glows none field shown := by
  have zero : ∃ shown, Measures glows none "0" shown :=
    ⟨"0", .literal (.inl (isNumber_digit (c := '0') rfl))⟩
  have two : ∃ shown, Measures glows none "2" shown :=
    ⟨"2", .literal (.inl (isNumber_digit (c := '2') rfl))⟩
  have spread : ∃ shown, Measures glows none "-1.5px" shown :=
    ⟨"-1.5px", .literal (.inr isLength_spread)⟩
  simp only [glowLayers, ShadowLayer.fields, List.forall_mem_cons, List.not_mem_nil,
    false_imp_iff, implies_true, and_true]
  exact ⟨⟨⟨_, gap⟩, two, ⟨_, wide⟩, spread⟩, zero, zero, zero, zero⟩

theorem separate : ∀ raws, glowLayers.mapM (·.raw (some "s.glow")) = .ok raws → Separate raws := by
  intro raws laidOut
  have computed : glowLayers.mapM (·.raw (some "s.glow")) =
      .ok ["inset {gap}px 2px {wide}px -1.5pxpx rgb({ink})", "0px 0px 0px 0px red"] := rfl
  cases computed.symm.trans laidOut
  exact ⟨Reference.not_crosses_of_unclosed (by decide),
    Reference.not_crosses_of_unclosed (by decide), trivial⟩

theorem value_glow : outcome glows ((glows.substitution .static none).value false
    (.boxShadow "s.glow" "glow" glowLayers)) =
      .ok "inset 4px 2px 2pxpx -1.5pxpx rgb(0, 0, 0), 0px 0px 0px 0px red" := by
  decide +kernel

end glows

/-- The blur and the spread of the first layer have their unit twice. -/
theorem shadow_appends_unit_glows :
    ∃ parts, List.Forall₂ (ShowsLayer glows none "s.glow") glowLayers parts ∧
      "inset 4px 2px 2pxpx -1.5pxpx rgb(0, 0, 0), 0px 0px 0px 0px red" =
        ", ".intercalate parts := by
  have here : Token.boxShadow "s.glow" "glow" glowLayers ∈ glows.tokens := by decide
  obtain ⟨value, -⟩ :=
    shadow_appends_unit glows none here rfl glows.measured glows.separate false
  exact (value _).1 glows.value_glow

/-! ## Lengths with their unit twice -/

/-- A layer as it is written with four lengths. -/
def HasLengths (layer : ShadowLayer) (part : String) : Prop :=
  ∃ x y blur spread color : String, IsLength x ∧ IsLength y ∧ IsLength blur ∧ IsLength spread ∧
    part = s!"{layer.inset}{x} {y} {blur} {spread} {color}"

/-- A layer with a length for a field. -/
def shadeLayers : List ShadowLayer :=
  [⟨"red", .drop, "2px", "0", "0", "0"⟩]

/-- Two layers with a name in braces across them. -/
def acrossLayers : List ShadowLayer :=
  [⟨"\x7b", .drop, "0", "0", "0", "0"⟩, ⟨"\x7d", .drop, "0", "0", "0", "0"⟩]

/-- The two shadows. -/
def shades : Library :=
  .ofTokens [.boxShadow "s.shade" "shade" shadeLayers, .boxShadow "s.across" "across" acrossLayers]
    (by decide)

/-- Not every layer is written with a number and the unit once for each of its fields: not where a
field has the unit already, and not where a name in braces reaches from one layer into another. -/
theorem not_hasLengths :
    (¬ ∀ (library : Library) (theme : Option String) (w : Token) (layers : List ShadowLayer)
      (result : String), w ∈ library.tokens → w.value = .shadow layers →
      (∀ layer ∈ layers, ∀ field ∈ layer.fields, ∃ shown, Measures library theme field shown) →
      outcome library ((library.substitution .static theme).value false w) = .ok result →
      ∃ parts, List.Forall₂ HasLengths layers parts ∧ result = ", ".intercalate parts) ∧
    ¬ ∀ (library : Library) (theme : Option String) (w : Token) (layers : List ShadowLayer)
      (result : String), w ∈ library.tokens → w.value = .shadow layers →
      (∀ layer ∈ layers, ∀ field ∈ layer.fields, IsNumber field) →
      outcome library ((library.substitution .static theme).value false w) = .ok result →
      ∃ parts, List.Forall₂ HasLengths layers parts ∧ result = ", ".intercalate parts := by
  have zero : IsNumber "0" := glows.isNumber_digit (c := '0') rfl
  constructor
  · intro once
    have measured : ∀ layer ∈ shadeLayers, ∀ field ∈ layer.fields, ∃ shown,
        Measures shades none field shown := by
      have two : ∃ shown, Measures shades none "2px" shown :=
        ⟨_, .literal (.inr glows.isLength_two)⟩
      have zero : ∃ shown, Measures shades none "0" shown := ⟨_, .literal (.inl zero)⟩
      simp [shadeLayers, ShadowLayer.fields, two, zero]
    have value : outcome shades ((shades.substitution .static none).value false
        (.boxShadow "s.shade" "shade" shadeLayers)) = .ok "2pxpx 0px 0px 0px red" := by
      decide +kernel
    obtain ⟨parts, written, whole⟩ :=
      once shades none _ shadeLayers _ (by decide) rfl measured value
    -- The first length ends at the first blank, and has the unit twice.
    obtain _ | ⟨⟨x, y, blur, spread, color, length, -, -, -, rfl⟩, ⟨⟩⟩ := written
    have blank : ' ' ∉ x.toList := fun there =>
      absurd (chars_of_isNumber_or_isLength (.inr length) _ there) (by decide)
    have cut : "2pxpx".toList ++ ' ' :: "0px 0px 0px red".toList =
        x.toList ++ ' ' :: (y ++ " " ++ blur ++ " " ++ spread ++ " " ++ color).toList := by
      have self (text : String) : toString text = text := rfl
      have chars := congrArg String.toList whole
      simpa [ShadowLayer.inset, String.toList_append, self] using chars
    have twice := String.toList_injective (Text.eq_of_append_cons_eq (by decide) blank cut).1
    have unit : ("2pxpx" : String) = "2px" ++ "px" := by decide
    rw [← twice, unit, isLength_append_iff] at length
    exact glows.isLength_two.not_isNumber length
  · intro once
    have measured : ∀ layer ∈ acrossLayers, ∀ field ∈ layer.fields, IsNumber field := by
      simp [acrossLayers, ShadowLayer.fields, zero]
    have value : outcome shades ((shades.substitution .static none).value false
        (.boxShadow "s.across" "across" acrossLayers)) = .ok "0px 0px 0px 0px BROKEN_REF" := by
      decide +kernel
    obtain ⟨parts, written, whole⟩ :=
      once shades none _ acrossLayers _ (by decide) rfl measured value
    -- Two layers have a comma between them.
    obtain _ | ⟨first, _ | ⟨second, ⟨⟩⟩⟩ := written
    have comma : ',' ∈ ("0px 0px 0px 0px BROKEN_REF" : String).toList := by
      have between : (", " : String).toList = [',', ' '] := rfl
      simp [whole, String.intercalate_cons_cons, String.toList_append, between]
    exact absurd comma (by decide)

end DesignTokens
