import DesignTokens.Proofs.Resolution.ColorReferences
import Mathlib.Data.List.Chain

/-!
# Channels along a chain of aliases

Where aliases lead to a color with hexadecimal digits, every color on the way stands for its channels
in other values, and is written as one call of `rgb` by itself. A call of `rgba` or the layer of a
shadow that refers to any of them gets the channels, with one call around them
(`channels_along_aliases`).
-/

namespace DesignTokens

open Inquiry

/-! ## Hexadecimal digits -/

/-- The digits of some channels: two for each, or one that counts twice. -/
inductive HexDigits : List Char → Channels → Prop
  | pairs {r r' g g' b b' : Char} {red red' green green' blue blue' : Nat} :
      Text.hexDigit? r = some red → Text.hexDigit? r' = some red' →
      Text.hexDigit? g = some green → Text.hexDigit? g' = some green' →
      Text.hexDigit? b = some blue → Text.hexDigit? b' = some blue' →
      HexDigits [r, r', g, g', b, b']
        ⟨16 * red + red', 16 * green + green', 16 * blue + blue'⟩
  | doubled {r g b : Char} {channels : Channels} :
      HexDigits [r, r, g, g, b, b] channels → HexDigits [r, g, b] channels

namespace Channels

theorem dropLineEnd_of_digit (front : List Char) {last : Char} {digit : Nat}
    (read : Text.hexDigit? last = some digit) :
    dropLineEnd (front ++ [last]) = (front ++ [last], false) := by
  have other : last ≠ '\n' := by
    rintro rfl
    cases read
  simp [dropLineEnd, other]

/-- A literal of hexadecimal digits is read as their channels. -/
theorem ofLiteral_of_hexDigits {digits : List Char} {channels : Channels}
    (hex : HexDigits digits channels) :
    ofLiteral (String.ofList ('#' :: digits)) = .ok channels := by
  rw [ofLiteral, String.toList_ofList]
  cases hex with
  | @pairs r r' g g' b b' _ _ _ _ _ _ red red' green green' blue blue' =>
    have whole := dropLineEnd_of_digit [r, r', g, g', b] blue'
    simp only [List.cons_append, List.nil_append] at whole
    simp [whole, red, red', green, green', blue, blue']
  | @doubled r g b _ hex =>
    cases hex with
    | pairs red red' green green' blue blue' =>
      cases red.symm.trans red'
      cases green.symm.trans green'
      cases blue.symm.trans blue'
      have whole := dropLineEnd_of_digit [r, g] blue
      simp only [List.cons_append, List.nil_append] at whole
      simp [whole, red, green, blue]
      omega

end Channels

/-! ## Chains of aliases -/

/-- The text of `u` is a reference to `v` and nothing else. -/
def IsAlias (library : Library) (theme : Option String) (u v : Token) : Prop :=
  ∃ name, Reference.IsName name ∧ u.value = .plain (Reference.braced name) ∧
    library.find theme name = .ok (some v)

section Chain

variable {library : Library} {theme : Option String} {chain : List Token} {last : Token}
  {channels : Channels}

/-- From every color of a chain, aliases lead to the literal at its end. -/
theorem exists_aliasChain {raw : String} (plain : last.value = .plain raw)
    (read : Channels.ofLiteral raw = .ok channels)
    (colors : ∀ t ∈ chain ++ [last], t.kind = .color)
    (links : (chain ++ [last]).IsChain (IsAlias library theme)) :
    ∀ t ∈ chain ++ [last], ∃ n, AliasChain library theme channels n t := by
  induction chain with
  | nil =>
    intro t there
    obtain rfl := List.mem_singleton.1 there
    exact ⟨0, .literal (colors t there) plain read⟩
  | cons u rest ih =>
    rw [List.cons_append] at colors links ⊢
    obtain ⟨color, colors⟩ := List.forall_mem_cons.1 colors
    obtain ⟨next, links⟩ := List.isChain_cons.1 links
    have behind := ih colors links
    refine List.forall_mem_cons.2 ⟨?_, behind⟩
    -- The rest of the chain is not empty, since the literal is in it.
    obtain ⟨v, others, cut⟩ := List.exists_cons_of_ne_nil
      (List.append_ne_nil_of_right_ne_nil rest (List.cons_ne_nil last []))
    obtain ⟨name, isName, refers, found⟩ := next v (by rw [cut]; rfl)
    obtain ⟨n, along⟩ := behind v (by rw [cut]; exact List.mem_cons_self)
    exact ⟨n + 1, .refers color refers (Reference.pieces_braced isName) found along⟩

/-- A call of `rgba` with a reference is written with what the reference stands for. -/
theorem outcome_cssValue_rgba {w : Token} {name alpha x : String} (here : w ∈ library.tokens)
    (color : w.kind = .color) (isName : Reference.IsName name) (plain : '{' ∉ alpha.toList)
    (call : w.value = .plain ("rgba(" ++ Reference.braced name ++ ", " ++ alpha ++ ")"))
    (stands : StandsFor library theme name x) :
    outcome library ((library.substitution .static theme).cssValue w) =
      .ok ("rgba(" ++ x ++ ", " ++ alpha ++ ")") := by
  have joined (text : String) : "rgba(" ++ text ++ ", " ++ alpha ++ ")" =
      "rgba(" ++ text ++ (", " ++ alpha ++ ")") := by
    simp only [String.append_assoc]
  have opening : '{' ∉ ("rgba(" : String).toList := by decide
  have closing : '{' ∉ (", " ++ alpha ++ ")").toList := by
    simpa [String.toList_append] using plain
  rw [joined] at call ⊢
  have occurs := Reference.occursIn_around isName "rgba(" (", " ++ alpha ++ ")")
  have resolved := outcome_resolve_around isName opening closing stands
  refine (outcome_cssValue_color here color call occurs).2 ⟨_, resolved, ?_⟩
  have starts : startsWithRgb ("rgba(" ++ x ++ (", " ++ alpha ++ ")")) := by
    simp [startsWithRgb, String.toList_append]
  exact (wrapRgb_eq_self_iff.2 starts).symm

end Chain

/-- Where a chain of aliases ends in a color with hexadecimal digits, every color of the chain is the
list of the channels when it is nested, and one call of `rgb` with them when it is written by itself.
A call of `rgba` that refers to a color of the chain has the channels in its place, and a layer of a
shadow that does is written with one call of `rgb`. -/
theorem channels_along_aliases (library : Library) (theme : Option String) {chain : List Token}
    {last : Token} {digits : List Char} {channels : Channels}
    (colors : ∀ t ∈ chain ++ [last], t ∈ library.tokens ∧ t.kind = .color)
    (links : (chain ++ [last]).IsChain (IsAlias library theme))
    (literal : last.value = .plain (String.ofList ('#' :: digits)))
    (hex : HexDigits digits channels) :
    ∀ t ∈ chain ++ [last],
      outcome library ((library.substitution .static theme).value true t) = .ok channels.text ∧
      outcome library ((library.substitution .static theme).cssValue t) =
        .ok (rgbCall channels.text) ∧
      ∀ name, Reference.IsName name → library.find theme name = .ok (some t) →
        (∀ w ∈ library.tokens, w.kind = .color → ∀ alpha : String, '{' ∉ alpha.toList →
          w.value = .plain ("rgba(" ++ Reference.braced name ++ ", " ++ alpha ++ ")") →
          outcome library ((library.substitution .static theme).cssValue w) =
            .ok ("rgba(" ++ channels.text ++ ", " ++ alpha ++ ")")) ∧
        ∀ w ∈ library.tokens, ∀ before layer after,
          w.value = .shadow (before ++ layer :: after) →
          layer.color = Reference.braced name → ∀ result,
          (outcome library ((library.substitution .static theme).cssValue w) = .ok result ↔
            LaysOut library (library.substitution .static theme) w.id before layer after
              (rgbCall channels.text) result) := by
  intro t there
  obtain ⟨here, -⟩ := colors t there
  obtain ⟨n, along⟩ := exists_aliasChain literal (Channels.ofLiteral_of_hexDigits hex)
    (fun t there => (colors t there).2) links t there
  have nested := along.value_nested here
  refine ⟨nested, along.cssValue_static here, fun name isName found => ⟨?_, ?_⟩⟩
  · intro w here color alpha plain call
    exact outcome_cssValue_rgba here color isName plain call (.token found along.isBundle nested)
  · intro w here before layer after shadow refers result
    have stands : StandsFor library theme name channels.text := .token found along.isBundle nested
    exact outcome_cssValue_shadow here shadow isName refers stands

/-! ## A tint -/

/-- A layer with a reference to the last alias. -/
def tintLayer : ShadowLayer :=
  ⟨"{c}", .inner, "0", "1", "2", "0"⟩

/-- A color, an alias of it, an alias of the alias, and a tint and a shadow of that. -/
def tints : Library :=
  .ofTokens [.color "s.a" "a" "#1f0", .color "s.b" "b" "{a}", .color "s.c" "c" "{b}",
    .color "s.tint" "tint" "rgba({c}, 50%)", .boxShadow "s.glow" "glow" [tintLayer]] (by decide)

theorem channels_along_aliases_tints :
    outcome tints ((tints.substitution .static none).cssValue (.color "s.c" "c" "{b}")) =
      .ok "rgb(17, 255, 0)" ∧
    outcome tints ((tints.substitution .static none).cssValue
      (.color "s.tint" "tint" "rgba({c}, 50%)")) = .ok "rgba(17, 255, 0, 50%)" ∧
    LaysOut tints (tints.substitution .static none) "s.glow" [] tintLayer [] "rgb(17, 255, 0)"
      "inset 0px 1px 2px 0px rgb(17, 255, 0)" := by
  have foundA : tints.find none "a" = .ok (some (.color "s.a" "a" "#1f0")) := rfl
  have foundB : tints.find none "b" = .ok (some (.color "s.b" "b" "{a}")) := rfl
  have foundC : tints.find none "c" = .ok (some (.color "s.c" "c" "{b}")) := rfl
  have isNameA : Reference.IsName "a" := ⟨by decide, by decide, by decide⟩
  have isNameB : Reference.IsName "b" := ⟨by decide, by decide, by decide⟩
  have isNameC : Reference.IsName "c" := ⟨by decide, by decide, by decide⟩
  have colors : ∀ t ∈ [Token.color "s.c" "c" "{b}", .color "s.b" "b" "{a}"] ++
      [.color "s.a" "a" "#1f0"], t ∈ tints.tokens ∧ t.kind = .color := by decide
  have links : ([Token.color "s.c" "c" "{b}", .color "s.b" "b" "{a}"] ++
      [Token.color "s.a" "a" "#1f0"]).IsChain (IsAlias tints none) :=
    .cons_cons ⟨"b", isNameB, rfl, foundB⟩ (.cons_cons ⟨"a", isNameA, rfl, foundA⟩ (.singleton _))
  have hex : HexDigits ['1', 'f', '0'] ⟨16 * 1 + 1, 16 * 15 + 15, 16 * 0 + 0⟩ :=
    .doubled (.pairs rfl rfl rfl rfl rfl rfl)
  obtain ⟨-, written, refers⟩ := channels_along_aliases tints none colors links rfl hex
    (.color "s.c" "c" "{b}") List.mem_cons_self
  obtain ⟨tint, glow⟩ := refers "c" isNameC foundC
  refine ⟨written, ?_, ?_⟩
  · exact tint (.color "s.tint" "tint" "rgba({c}, 50%)") (by decide) rfl "50%" (by decide) rfl
  · refine (glow (.boxShadow "s.glow" "glow" [tintLayer]) (by decide) [] tintLayer [] rfl rfl _).1 ?_
    decide +kernel

end DesignTokens
