import DesignTokens.Proofs.Calc.Language
import DesignTokens.Proofs.Color
import DesignTokens.Proofs.Resolution.Calls

/-!
# References in shadows

The layers of a shadow are laid out as one text, and the references of that text are resolved
together. A layer is expanded field by field (`ShadowLayer.exists_raw_iff_of_fields`), and joined
layers are expanded one by one, as long as no name in braces begins in one of them and ends in
another (`outcome_substituteIn_intercalate`).

A layer whose color is a reference is laid out with a call of `rgb` around it. So in static form the
layer has a call of `rgb` around what the reference stands for, and the texts in front of that call
and behind it are resolved by themselves (`outcome_cssValue_shadow`).
-/

namespace DesignTokens

open Inquiry

/-! ## Texts of layers -/

theorem intercalate_cons (separator first : String) (rest : List String) :
    separator.intercalate (first :: rest) = first ++ String.join (rest.map (separator ++ ·)) := by
  induction rest generalizing first with
  | nil => simp
  | cons second others ih =>
    rw [String.intercalate_cons_cons, ih, List.map_cons, String.join_cons]
    simp only [String.append_assoc]

/-- A joined text can be cut inside any of its parts. -/
theorem intercalate_middle (separator a b : String) (front behind : List String) :
    separator.intercalate (front ++ (a ++ b) :: behind) =
      separator.intercalate (front ++ [a]) ++ b ++ String.join (behind.map (separator ++ ·)) := by
  cases front with
  | nil =>
    rw [List.nil_append, List.nil_append, intercalate_cons, String.intercalate_singleton]
  | cons first rest =>
    simp only [List.cons_append, intercalate_cons, List.map_append, List.map_cons, List.map_nil,
      String.join_append, String.join_cons, String.join_nil, String.append_assoc,
      String.append_empty]

theorem channelsOf_eq_ok_iff {literal : String} {token : Option String} {text : String} :
    channelsOf literal token = .ok text ↔
      ∃ channels, Channels.ofLiteral literal = .ok channels ∧ text = channels.text := by
  unfold channelsOf
  split
  · next channels read => simp [read, eq_comm]
  · next refused => simp [refused]
  · next refused => simp [refused]

/-- What becomes of the color of a layer when `own` says what becomes of a text: the channels of a
literal in a call of `rgb`, a text with a reference in one unless it starts like one, and any other
text as it is. -/
inductive BecomesColor (own : String → Except Failure String) (color : String) : String → Prop
  | literal {channels : Channels} : isHexLiteral color = true →
      Channels.ofLiteral color = .ok channels → BecomesColor own color (rgbCall channels.text)
  | reference {text : String} : isHexLiteral color = false → Reference.occursIn color = true →
      own color = .ok text →
      BecomesColor own color (if startsWithRgb color then text else rgbCall text)
  | other : isHexLiteral color = false → Reference.occursIn color = false →
      BecomesColor own color color

namespace ShadowLayer

variable {layer : ShadowLayer} {name : String}

/-- The four fields that are lengths. -/
def fields (layer : ShadowLayer) : List String :=
  [layer.x, layer.y, layer.blur, layer.spread]

/-- The text of a layer in front of its color. -/
def lengths (layer : ShadowLayer) : String :=
  s!"{layer.inset}{layer.x}px {layer.y}px {layer.blur}px {layer.spread}px"

/-- A layer with texts in the place of its fields and of its color. -/
def spell (layer : ShadowLayer) (x y blur spread color : String) : String :=
  s!"{layer.inset}{x}px {y}px {blur}px {spread}px {color}"

theorem spell_eq (layer : ShadowLayer) (x y blur spread color : String) :
    layer.spell x y blur spread color = layer.inset ++
      (x ++ "px " ++ (y ++ "px " ++ (blur ++ "px " ++ (spread ++ "px " ++ color)))) := by
  unfold spell
  simp only [toString, String.append_assoc]

theorem raw_eq_ok_iff {layer : ShadowLayer} {token : Option String} {raw : String} :
    layer.raw token = .ok raw ↔ ∃ color, layer.colorText token = .ok color ∧
      raw = layer.spell layer.x layer.y layer.blur layer.spread color := by
  unfold ShadowLayer.raw spell
  rw [Except.bind_eq_ok]
  constructor
  · rintro ⟨color, colored, last⟩
    exact ⟨color, colored, (Except.ok.inj last).symm⟩
  · rintro ⟨color, colored, rfl⟩
    exact ⟨color, colored, rfl⟩

theorem plain_inset (layer : ShadowLayer) : '{' ∉ layer.inset.toList := by
  unfold ShadowLayer.inset
  split <;> decide

/-- A color is laid out before anything becomes of its references. -/
theorem colorText_eq_ok_iff {layer : ShadowLayer} {token : Option String} {text : String} :
    layer.colorText token = .ok text ↔ BecomesColor .ok layer.color text := by
  unfold colorText
  constructor
  · intro colored
    split at colored
    · next literal =>
      obtain ⟨_, written, rfl⟩ := Except.map_eq_ok.1 colored
      obtain ⟨channels, read, rfl⟩ := channelsOf_eq_ok_iff.1 written
      rw [wrapRgb_of_not_startsWithRgb channels.startsWithRgb_text]
      exact .literal literal read
    · next other =>
      split at colored
      · next occurs =>
        cases colored
        exact .reference (by simpa using other) occurs rfl
      · next none =>
        cases colored
        exact .other (by simpa using other) (by simpa using none)
  · intro laid
    cases laid with
    | literal literal read =>
      rw [if_pos literal, channelsOf_eq_ok_iff.2 ⟨_, read, rfl⟩]
      exact congrArg Except.ok (wrapRgb_of_not_startsWithRgb (Channels.startsWithRgb_text _))
    | reference other occurs same =>
      cases same
      simp [other, occurs, wrapRgb]
    | other other none => simp [other, none]

/-- A layer whose color is a reference is laid out with a call of `rgb` around it. -/
theorem raw_reference (isName : Reference.IsName name) (color : layer.color = Reference.braced name)
    (token : Option String) :
    layer.raw token = .ok (layer.lengths ++ (" rgb(" ++ Reference.braced name ++ ")")) := by
  have front : layer.color.toList = '{' :: (name.toList ++ ['}']) := by
    rw [color, Reference.toList_braced]
    rfl
  have occurs : Reference.occursIn layer.color = true :=
    Reference.occursIn_of_pieces (color ▸ Reference.pieces_braced isName)
  have literal : isHexLiteral layer.color = false := by
    rw [isHexLiteral, front]
    rfl
  have call : wrapRgb layer.color = "rgb(" ++ layer.color ++ ")" := by
    rw [wrapRgb, startsWithRgb, front]
    rfl
  have colored : layer.colorText token = .ok ("rgb(" ++ layer.color ++ ")") := by
    rw [colorText, literal, occurs, call]
    rfl
  have unit : (toString "px " : String) = toString "px" ++ " " := rfl
  have blank : (" rgb(" : String) = " " ++ "rgb(" := rfl
  unfold raw lengths
  rw [colored, color, unit, blank]
  simp only [bind, Except.bind, pure, Except.pure, String.append_assoc]
  rfl

end ShadowLayer

/-- Where `R` says what each field with the unit behind it is expanded to, a layer that is laid out
is expanded field by field, and its color behind them. -/
theorem ShadowLayer.exists_raw_iff_of_fields {library : Library} {f : String → Inquiry String}
    {layer : ShadowLayer} {token : Option String} {part : String} {R : String → String → Prop}
    (expands : ∀ field ∈ layer.fields, ∀ behind result,
      outcome library (Reference.substituteIn f (field ++ "px " ++ behind)) = .ok result ↔
        ∃ shown right, R field shown ∧
          outcome library (Reference.substituteIn f behind) = .ok right ∧
          result = shown ++ "px " ++ right) :
    (∃ raw, layer.raw token = .ok raw ∧
        outcome library (Reference.substituteIn f raw) = .ok part) ↔
      ∃ x y blur spread color, R layer.x x ∧ R layer.y y ∧ R layer.blur blur ∧
        R layer.spread spread ∧ (∃ raw, layer.colorText token = .ok raw ∧
          outcome library (Reference.substituteIn f raw) = .ok color) ∧
        part = layer.spell x y blur spread color := by
  simp only [ShadowLayer.fields, List.forall_mem_cons] at expands
  obtain ⟨x, y, blur, spread, -⟩ := expands
  constructor
  · rintro ⟨raw, laidOut, expanded⟩
    obtain ⟨colored, laid, rfl⟩ := raw_eq_ok_iff.1 laidOut
    rw [spell_eq] at expanded
    -- The word in front and the four fields are taken off from the front, and the color is left.
    obtain ⟨_, fromX, rfl⟩ :=
      (Reference.outcome_substituteIn_behind layer.plain_inset).1 expanded
    obtain ⟨_, _, hx, fromY, rfl⟩ := (x _ _).1 fromX
    obtain ⟨_, _, hy, fromBlur, rfl⟩ := (y _ _).1 fromY
    obtain ⟨_, _, hblur, fromSpread, rfl⟩ := (blur _ _).1 fromBlur
    obtain ⟨_, _, hspread, fromColor, rfl⟩ := (spread _ _).1 fromSpread
    rw [← spell_eq]
    exact ⟨_, _, _, _, _, hx, hy, hblur, hspread, ⟨colored, laid, fromColor⟩, rfl⟩
  · rintro ⟨_, _, _, _, _, hx, hy, hblur, hspread, ⟨colored, laid, expanded⟩, rfl⟩
    refine ⟨_, raw_eq_ok_iff.2 ⟨colored, laid, rfl⟩, ?_⟩
    rw [spell_eq, spell_eq]
    refine (Reference.outcome_substituteIn_behind layer.plain_inset).2 ⟨_, ?_, rfl⟩
    refine (x _ _).2 ⟨_, _, hx, (y _ _).2 ⟨_, _, hy, ?_, rfl⟩, rfl⟩
    exact (blur _ _).2 ⟨_, _, hblur, (spread _ _).2 ⟨_, _, hspread, expanded, rfl⟩, rfl⟩

/-! ## Layers in a row -/

/-- No name in braces begins in one of the texts and ends in one behind it. -/
def Separate : List String → Prop
  | [] => True
  | raw :: rest =>
    ¬ Reference.Crosses raw.toList (String.join (rest.map (", " ++ ·))).toList ∧ Separate rest

namespace Reference

section Row

variable {library : Library} {f : String → Inquiry String} {raws : List String} {result : String}

theorem outcome_substituteIn_join (separate : Separate raws) :
    outcome library (substituteIn f (String.join (raws.map (", " ++ ·)))) = .ok result ↔
      ∃ parts,
        List.Forall₂ (fun raw part => outcome library (substituteIn f raw) = .ok part) raws parts ∧
        result = String.join (parts.map (", " ++ ·)) := by
  have comma : '{' ∉ (", " : String).toList := by decide
  induction raws generalizing result with
  | nil =>
    have nothing : outcome library (substituteIn f "") = .ok "" :=
      outcome_substituteIn_plain List.not_mem_nil
    constructor
    · intro resolved
      cases nothing.symm.trans resolved
      exact ⟨[], .nil, rfl⟩
    · rintro ⟨parts, ⟨⟩, rfl⟩
      exact nothing
  | cons raw rest ih =>
    obtain ⟨apart, others⟩ := separate
    rw [List.map_cons, String.join_cons, String.append_assoc, outcome_substituteIn_behind comma]
    simp only [outcome_substituteIn_append apart, ih others]
    constructor
    · rintro ⟨_, ⟨part, _, first, ⟨parts, behind, rfl⟩, rfl⟩, rfl⟩
      refine ⟨part :: parts, .cons first behind, ?_⟩
      rw [List.map_cons, String.join_cons, String.append_assoc]
    · rintro ⟨_, _ | ⟨first, behind⟩, rfl⟩
      refine ⟨_, ⟨_, _, first, ⟨_, behind, rfl⟩, rfl⟩, ?_⟩
      rw [List.map_cons, String.join_cons, String.append_assoc]

/-- Joined texts are expanded by themselves. -/
theorem outcome_substituteIn_intercalate (separate : Separate raws) :
    outcome library (substituteIn f (", ".intercalate raws)) = .ok result ↔
      ∃ parts,
        List.Forall₂ (fun raw part => outcome library (substituteIn f raw) = .ok part) raws parts ∧
        result = ", ".intercalate parts := by
  cases raws with
  | nil =>
    constructor
    · intro resolved
      obtain ⟨_, ⟨⟩, rfl⟩ := (outcome_substituteIn_join separate).1 resolved
      exact ⟨[], .nil, rfl⟩
    · rintro ⟨_, ⟨⟩, rfl⟩
      exact (outcome_substituteIn_join separate).2 ⟨[], .nil, rfl⟩
  | cons raw rest =>
    obtain ⟨apart, others⟩ := separate
    simp only [intercalate_cons, outcome_substituteIn_append apart,
      outcome_substituteIn_join others]
    constructor
    · rintro ⟨part, _, first, ⟨parts, behind, rfl⟩, rfl⟩
      exact ⟨part :: parts, .cons first behind, (intercalate_cons ..).symm⟩
    · rintro ⟨_, _ | ⟨first, behind⟩, rfl⟩
      exact ⟨_, _, first, ⟨_, behind, rfl⟩, intercalate_cons ..⟩

end Row

end Reference

/-- Joined texts are resolved by themselves. -/
theorem outcome_resolve_intercalate {library : Library} {s : Substitution} {raws : List String}
    {result : String} (separate : Separate raws) :
    outcome library (s.resolve (", ".intercalate raws)) = .ok result ↔
      ∃ parts,
        List.Forall₂ (fun raw part => outcome library (s.resolve raw) = .ok part) raws parts ∧
        result = ", ".intercalate parts :=
  Reference.outcome_substituteIn_intercalate separate

/-! ## Values of shadows -/

/-- The result is the text of the layers of a shadow, with `color` for the color of one `layer`.
What is in front of that color and what is behind it is resolved by itself. -/
def LaysOut (library : Library) (s : Substitution) (token : String) (before : List ShadowLayer)
    (layer : ShadowLayer) (after : List ShadowLayer) (color result : String) : Prop :=
  ∃ fronts backs left right,
    before.mapM (·.raw (some token)) = .ok fronts ∧ after.mapM (·.raw (some token)) = .ok backs ∧
    outcome library (s.resolve (", ".intercalate (fronts ++ [layer.lengths]))) = .ok left ∧
    outcome library (s.resolve (String.join (backs.map (", " ++ ·)))) = .ok right ∧
    result = left ++ " " ++ color ++ right

section Shadow

variable {library : Library} {theme : Option String} {w : Token} {name x result : String}
  {before layers after : List ShadowLayer} {layer : ShadowLayer} {nested : Bool}

/-- The layers of a shadow are laid out, and the whole text is expanded. -/
theorem outcome_shadowValue_eq_ok {expand : String → Inquiry String} {text : String} :
    outcome library (Substitution.shadowValue expand w layers) = .ok text ↔
      ∃ raws, layers.mapM (·.raw (some w.id)) = .ok raws ∧
        outcome library (expand (", ".intercalate raws)) = .ok text := by
  unfold Substitution.shadowValue
  rw [outcome_bind_eq_ok, outcome_lift]

theorem openValue_shadow {expand : String → Inquiry String} (shadow : w.value = .shadow layers) :
    Substitution.openValue expand w nested =
      wrapCalc <$> Substitution.shadowValue expand w layers := by
  unfold Substitution.openValue
  rw [shadow]
  exact bind_pure_comp ..

/-- An open shadow has the value of its expanded text. -/
theorem outcome_openValue_shadow {expand : String → Inquiry String}
    (shadow : w.value = .shadow layers) :
    outcome library (Substitution.openValue expand w nested) = .ok result ↔
      ∃ raws text, layers.mapM (·.raw (some w.id)) = .ok raws ∧
        outcome library (expand (", ".intercalate raws)) = .ok text ∧ result = wrapCalc text := by
  rw [openValue_shadow shadow, map_eq_pure_bind, outcome_bind_eq_ok]
  simp only [outcome_shadowValue_eq_ok]
  constructor
  · rintro ⟨text, ⟨raws, laidOut, expanded⟩, last⟩
    cases last
    exact ⟨raws, text, laidOut, expanded, rfl⟩
  · rintro ⟨raws, text, laidOut, expanded, rfl⟩
    exact ⟨text, ⟨raws, laidOut, expanded⟩, rfl⟩

theorem kind_ne_color (shadow : w.value = .shadow layers) : w.kind ≠ .color := by
  intro color
  have fits := w.fits
  rw [shadow, color] at fits
  cases fits

/-- A text with a call of `rgb` behind a blank is no expression. -/
theorem not_isExpression_of_rgbCall (left right : String) :
    Calc.isExpression (left ++ " " ++ rgbCall x ++ right) = false := by
  have blank : (" " : String).toList = [' '] := rfl
  have spelled : (left ++ " " ++ rgbCall x ++ right).toList =
      left.toList ++ ' ' :: 'r' :: ('g' :: 'b' :: '(' :: (x.toList ++ [')'] ++ right.toList)) := by
    simp [String.toList_append, blank, toList_rgbCall]
  exact Calc.not_isExpression_of_blank_letter spelled (by decide) (by decide)

/-- Only a color gets a call of `rgb` where it is written. -/
theorem outcome_cssValue_other (other : w.kind ≠ .color) :
    outcome library ((library.substitution .static theme).cssValue w) = .ok result ↔
      outcome library ((library.substitution .static theme).value false w) = .ok result := by
  have same (value : String) : Substitution.wrapColor w.kind value = value :=
    if_neg fun color => other color.1
  simp only [outcome_cssValue_eq_ok, same, exists_eq_right']

theorem mapM_raw_eq_ok {token text : String} (laidOut : layer.raw (some token) = .ok text)
    {raws : List String} :
    (before ++ layer :: after).mapM (·.raw (some token)) = .ok raws ↔
      ∃ fronts backs, before.mapM (·.raw (some token)) = .ok fronts ∧
        after.mapM (·.raw (some token)) = .ok backs ∧ raws = fronts ++ text :: backs := by
  rw [List.mapM_append, List.mapM_cons]
  constructor
  · intro all
    obtain ⟨fronts, first, all⟩ := Except.bind_eq_ok.1 all
    obtain ⟨others, rest, last⟩ := Except.bind_eq_ok.1 all
    obtain ⟨_, here, rest⟩ := Except.bind_eq_ok.1 rest
    obtain ⟨backs, second, whole⟩ := Except.bind_eq_ok.1 rest
    cases last
    cases whole
    cases laidOut.symm.trans here
    exact ⟨fronts, backs, first, second, rfl⟩
  · rintro ⟨fronts, backs, first, second, rfl⟩
    rw [first, second, laidOut]
    rfl

/-- In static form a layer whose color is a reference has a call of `rgb` around what the reference
stands for. -/
theorem outcome_cssValue_shadow (here : w ∈ library.tokens)
    (shadow : w.value = .shadow (before ++ layer :: after)) (isName : Reference.IsName name)
    (color : layer.color = Reference.braced name) (stands : StandsFor library theme name x) :
    outcome library ((library.substitution .static theme).cssValue w) = .ok result ↔
      LaysOut library (library.substitution .static theme) w.id before layer after (rgbCall x)
        result := by
  have laidOut := ShadowLayer.raw_reference isName color (some w.id)
  have blank : (" rgb(" : String) = " " ++ "rgb(" := rfl
  have text (fronts backs : List String) :
      ", ".intercalate
          (fronts ++ (layer.lengths ++ (" rgb(" ++ Reference.braced name ++ ")")) :: backs) =
        ", ".intercalate (fronts ++ [layer.lengths]) ++ " rgb(" ++ Reference.braced name ++ ")" ++
          String.join (backs.map (", " ++ ·)) := by
    rw [intercalate_middle]
    simp only [String.append_assoc]
  have opening : '{' ∉ (" rgb(" : String).toList := by decide
  have unclosed : '}' ∉ (" rgb(" : String).toList := by decide
  have closing : '{' ∉ (")" : String).toList := by decide
  have called (left right : String) :
      left ++ " rgb(" ++ x ++ ")" ++ right = left ++ " " ++ rgbCall x ++ right := by
    rw [blank, rgbCall]
    simp only [String.append_assoc]
  rw [outcome_cssValue_other (kind_ne_color shadow), outcome_value_eq_ok_iff_open here,
    outcome_openValue_shadow shadow]
  simp only [mapM_raw_eq_ok laidOut]
  constructor
  · rintro ⟨raws, whole, ⟨fronts, backs, first, second, rfl⟩, resolved, rfl⟩
    rw [text] at resolved
    obtain ⟨left, here, right, before, stands', after, rfl⟩ :=
      (outcome_resolve_call isName opening unclosed closing).1 resolved
    cases stands.unique stands'
    refine ⟨fronts, backs, left, right, first, second, before, after, ?_⟩
    rw [called, wrapCalc, not_isExpression_of_rgbCall]
    rfl
  · rintro ⟨fronts, backs, left, right, first, second, before, after, rfl⟩
    refine ⟨_, left ++ " rgb(" ++ x ++ ")" ++ right, ⟨fronts, backs, first, second, rfl⟩, ?_, ?_⟩
    · rw [text]
      exact (outcome_resolve_call isName opening unclosed closing).2
        ⟨left, x, right, before, stands, after, rfl⟩
    · rw [called, wrapCalc, not_isExpression_of_rgbCall]
      rfl

end Shadow

end DesignTokens
