import DesignTokens.Proofs.Calc.Language
import DesignTokens.Proofs.Color
import DesignTokens.Proofs.Reference
import DesignTokens.Proofs.Resolution.Composition
import DesignTokens.Proofs.Text

/-!
# Colors that stand for colors

An alias is a color whose text is one reference and nothing else. A chain of aliases leads to a
literal (`AliasChain`). In static form every color of the chain is written as one call of `rgb`
(`AliasChain.cssValue_static`). With custom properties each alias of the chain puts a call of `rgb`
around the look-up of the next one (`cssValue_alias`), so a stylesheet that looks the properties up
(`Expands`) gets as many calls around the channels as there are aliases
(`expansion_calls_rgb_for_each_alias`).
-/

namespace DesignTokens

open Inquiry

/-- From this color `n` aliases, each of them the color that the one before refers to, lead to a
literal of the channels. -/
inductive AliasChain (library : Library) (theme : Option String) (channels : Channels) :
    Nat → Token → Prop
  | literal {u : Token} {raw : String} : u.kind = .color → u.value = .plain raw →
      Channels.ofLiteral raw = .ok channels → AliasChain library theme channels 0 u
  | refers {n : Nat} {u v : Token} {raw name : String} : u.kind = .color → u.value = .plain raw →
      Reference.pieces raw.toList = [.reference name.toList] →
      library.find theme name = .ok (some v) → AliasChain library theme channels n v →
      AliasChain library theme channels (n + 1) u

/-! ## Literals -/

namespace Channels

variable {literal : String} {channels : Channels}

/-- There is no reference in a literal that is read. -/
theorem occursIn_of_ofLiteral (read : ofLiteral literal = .ok channels) :
    Reference.occursIn literal = false := by
  refine Reference.occursIn_of_plain fun brace => ?_
  exact absurd (mem_of_ofLiteral read _ brace) (by decide)

theorem not_isExpression_text (channels : Channels) : Calc.isExpression channels.text = false :=
  Calc.not_isExpression_of_comma (by simp [toList_text])

end Channels

theorem not_isExpression_of_startsWithRgb {text : String} (starts : startsWithRgb text = true) :
    Calc.isExpression text = false := by
  obtain ⟨rest, whole⟩ := exists_of_startsWithRgb starts
  exact Calc.not_isExpression_of_letter whole rfl (by decide)

theorem wrapColor_of_isChannelTriplet {text : String} (triplet : isChannelTriplet text = true) :
    Substitution.wrapColor .color text = rgbCall text :=
  if_pos ⟨rfl, triplet⟩

theorem wrapColor_of_not_isChannelTriplet {text : String} (other : isChannelTriplet text = false) :
    Substitution.wrapColor .color text = text := by
  simp [Substitution.wrapColor, other]

/-- A color by itself gets its call of `rgb`, and a nested list of channels stays as it is. -/
theorem finished_color (text : String) : finished .color false text = wrapRgb text := by
  have starts := startsWithRgb_wrapRgb text
  rw [finished_eq, if_pos ⟨rfl, rfl⟩,
    wrapCalc_of_not_isExpression (not_isExpression_of_startsWithRgb starts)]

theorem finished_nested (kind : TokenKind) (channels : Channels) :
    finished kind true channels.text = channels.text := by
  simp [finished_eq, wrapCalc, channels.not_isExpression_text]

/-! ## Values -/

section Values

variable {library : Library} {theme : Option String} {channels : Channels} {n : Nat} {u v : Token}
  {raw name : String} {nested : Bool}

/-- A color whose text is a literal has what the literal is read as for a value. -/
theorem outcome_value_of_isHexLiteral {s : Substitution} (enough : s.room ≠ 0)
    (color : u.kind = .color) (plain : u.value = .plain raw) (literal : isHexLiteral raw = true)
    (noReference : Reference.occursIn raw = false) :
    outcome library (s.value nested u) = (channelsOf raw (some u.id)).map wrapCalc := by
  obtain ⟨room, full⟩ := Nat.exists_eq_succ_of_ne_zero enough
  unfold Substitution.value
  rw [full, Substitution.valueAt, if_neg List.not_mem_nil]
  unfold Substitution.openValue
  simp only [plain]
  rw [outcome_bind]
  simp only [Substitution.plainValue, noReference, color, literal, outcome_lift,
    Bool.false_eq_true, if_false, and_self, if_true]
  cases channelsOf raw (some u.id) <;> rfl

/-- A literal has its channels for a value. -/
theorem outcome_value_literal {s : Substitution} (enough : s.room ≠ 0) (color : u.kind = .color)
    (plain : u.value = .plain raw) (read : Channels.ofLiteral raw = .ok channels) :
    outcome library (s.value nested u) = .ok channels.text := by
  have written : channelsOf raw (some u.id) = .ok channels.text := by
    rw [channelsOf, read]
  have calm : wrapCalc channels.text = channels.text :=
    wrapCalc_of_not_isExpression channels.not_isExpression_text
  rw [outcome_value_of_isHexLiteral enough color plain (Channels.isHexLiteral_of_ofLiteral read)
    (Channels.occursIn_of_ofLiteral read), written, Except.map, calm]

/-- In static form an alias is finished from the nested value of the color that it refers to. -/
theorem outcome_value_alias {text : String} (here : u ∈ library.tokens) (color : u.kind = .color)
    (plain : u.value = .plain raw)
    (only : Reference.pieces raw.toList = [.reference name.toList])
    (found : library.find theme name = .ok (some v)) (single : v.isBundle = false)
    (computed : outcome library ((library.substitution .static theme).value true v) = .ok text) :
    outcome library ((library.substitution .static theme).value nested u) =
      .ok (finished .color nested text) := by
  have occurs := Reference.occursIn_of_pieces only
  have resolved := outcome_resolve_of_pieces only (.token found single computed)
  exact (outcome_value_eq_ok here plain occurs).2 ⟨text, resolved, by rw [color]⟩

/-- In static form a color whose text has a reference is its resolved text in a call of `rgb`. -/
theorem outcome_cssValue_color {result : String} (here : u ∈ library.tokens)
    (color : u.kind = .color) (plain : u.value = .plain raw)
    (occurs : Reference.occursIn raw = true) :
    outcome library ((library.substitution .static theme).cssValue u) = .ok result ↔
      ∃ text, outcome library ((library.substitution .static theme).resolve raw) = .ok text ∧
        result = wrapRgb text := by
  have written (text : String) :
      Substitution.wrapColor u.kind (finished u.kind false text) = wrapRgb text := by
    have starts := startsWithRgb_wrapRgb text
    rw [color, finished_color,
      wrapColor_of_not_isChannelTriplet (not_isChannelTriplet_of_startsWithRgb starts)]
  rw [outcome_cssValue_eq_ok]
  constructor
  · rintro ⟨value, computed, rfl⟩
    obtain ⟨text, resolved, rfl⟩ := (outcome_value_eq_ok here plain occurs).1 computed
    exact ⟨text, resolved, written text⟩
  · rintro ⟨text, resolved, rfl⟩
    exact ⟨_, (outcome_value_eq_ok here plain occurs).2 ⟨text, resolved, rfl⟩, (written text).symm⟩

end Values

namespace AliasChain

variable {library : Library} {theme : Option String} {channels : Channels} {n : Nat} {u : Token}

theorem isBundle (chain : AliasChain library theme channels n u) : u.isBundle = false := by
  cases chain with
  | literal _ plain _ => simp [Token.isBundle, plain, TokenValue.form]
  | refers _ plain _ _ _ => simp [Token.isBundle, plain, TokenValue.form]

theorem small (chain : AliasChain library theme channels n u) :
    channels.red < 256 ∧ channels.green < 256 ∧ channels.blue < 256 := by
  induction chain with
  | literal _ _ read => exact Channels.lt_of_ofLiteral read
  | refers _ _ _ _ _ ih => exact ih

/-- Nested in another value, every color of the chain is the list of the channels. -/
theorem value_nested (chain : AliasChain library theme channels n u) (here : u ∈ library.tokens) :
    outcome library ((library.substitution .static theme).value true u) = .ok channels.text := by
  induction chain with
  | literal color plain read =>
    exact outcome_value_literal (List.length_pos_of_mem here).ne' color plain read
  | refers color plain only found chain ih =>
    have computed := ih (Library.mem_tokens_of_find found)
    rw [outcome_value_alias here color plain only found chain.isBundle computed, finished_nested]

/-- In static form every color of the chain is written as one call of `rgb`. -/
theorem cssValue_static (chain : AliasChain library theme channels n u)
    (here : u ∈ library.tokens) :
    outcome library ((library.substitution .static theme).cssValue u) =
      .ok (rgbCall channels.text) := by
  have triplet := Channels.isChannelTriplet_text chain.small
  cases chain with
  | literal color plain read =>
    have enough : library.tokens.length ≠ 0 := (List.length_pos_of_mem here).ne'
    refine outcome_cssValue_eq_ok.2 ⟨_, outcome_value_literal enough color plain read, ?_⟩
    rw [color, wrapColor_of_isChannelTriplet triplet]
  | refers color plain only found chain =>
    have computed := chain.value_nested (Library.mem_tokens_of_find found)
    have resolved := outcome_resolve_of_pieces only (.token found chain.isBundle computed)
    have occurs := Reference.occursIn_of_pieces only
    refine (outcome_cssValue_color here color plain occurs).2 ⟨_, resolved, ?_⟩
    exact (wrapRgb_of_not_startsWithRgb channels.startsWithRgb_text).symm

end AliasChain

/-! ## Values with custom properties -/

section CustomProperties

variable {library : Library} {theme : Option String} {channels : Channels} {u : Token}
  {raw name : String}

theorem not_startsWithRgb_variableCall (name : String) :
    startsWithRgb (variableCall name) = false := by
  have front : (variableCall name).toList = 'v' :: ("ar(--" ++ kebab name ++ ")").toList := by
    simp [variableCall, String.toList_append]
  unfold startsWithRgb
  rw [front]
  rfl

/-- With custom properties an alias is a look-up in a call of `rgb`. -/
theorem cssValue_alias (here : u ∈ library.tokens) (color : u.kind = .color)
    (plain : u.value = .plain raw)
    (only : Reference.pieces raw.toList = [.reference name.toList]) :
    outcome library ((library.substitution .customProperties theme).cssValue u) =
      .ok (rgbCall (variableCall name)) := by
  obtain ⟨room, full⟩ := Nat.exists_eq_succ_of_ne_zero (List.length_pos_of_mem here).ne'
  have occurs := Reference.occursIn_of_pieces only
  refine outcome_bind_eq_ok.2 ⟨_, ?_, rfl⟩
  unfold Substitution.value
  rw [Library.substitution_room, full, Substitution.valueAt, if_neg List.not_mem_nil]
  refine (outcome_openValue_plain plain occurs).2 ⟨variableCall name, ?_, ?_⟩
  · rw [← Reference.replaceIn_of_pieces only variableCall]
    exact Reference.outcome_substituteIn fun _ _ => rfl
  · rw [color, finished_color, wrapRgb_of_not_startsWithRgb (not_startsWithRgb_variableCall name)]

/-- With custom properties a literal is the list of its channels. -/
theorem cssValue_literal (here : u ∈ library.tokens) (color : u.kind = .color)
    (plain : u.value = .plain raw) (read : Channels.ofLiteral raw = .ok channels) :
    outcome library ((library.substitution .customProperties theme).cssValue u) =
      .ok channels.text := by
  have enough : library.tokens.length ≠ 0 := (List.length_pos_of_mem here).ne'
  exact outcome_bind_eq_ok.2 ⟨_, outcome_value_literal enough color plain read, rfl⟩

end CustomProperties

/-! ## Looking custom properties up -/

/-- A look-up of the custom property of a key. -/
def lookUp (key : String) : String :=
  "var(--" ++ key ++ ")"

/-- The result is what becomes of the text when look-ups of custom properties are replaced, one
after another, by values that are declared for them, until there is no look-up left. -/
inductive Expands (declares : String → String → Prop) : String → String → Prop
  | done {text : String} : ¬ ['v', 'a', 'r', '('] <:+: text.toList → Expands declares text text
  | step {text before key value after result : String} :
      text = before ++ lookUp key ++ after → declares key value →
      Expands declares (before ++ value ++ after) result → Expands declares text result

/-- The custom property of an active token is declared with the value that is written for it. -/
def Declares (library : Library) (theme : Option String) (active : List Token)
    (key value : String) : Prop :=
  ∃ u ∈ active, kebab u.name = key ∧
    outcome library ((library.substitution .customProperties theme).cssValue u) = .ok value

/-- There is no parenthesis in a text. -/
def HasNoParenthesis (text : String) : Prop :=
  '(' ∉ text.toList ∧ ')' ∉ text.toList

section Expands

variable {declares : String → String → Prop} {text result : String}

/-- A text without a look-up is expanded already. -/
theorem expands_iff_of_notMem (none : 'v' ∉ text.toList) :
    Expands declares text result ↔ result = text := by
  constructor
  · rintro (_ | ⟨spelled, _, _⟩)
    · rfl
    · exact absurd (by simp [spelled, lookUp]) none
  · rintro rfl
    exact .done fun look => none (look.subset List.mem_cons_self)

theorem toList_lookUp (before key after : String) :
    (before ++ lookUp key ++ after).toList =
      (before.toList ++ ['v', 'a', 'r'] ++ '(' :: '-' :: '-' :: key.toList) ++
        ')' :: after.toList := by
  have opening : ("var(--" : String).toList = ['v', 'a', 'r', '(', '-', '-'] := rfl
  have closing : (")" : String).toList = [')'] := rfl
  simp [lookUp, String.toList_append, opening, closing]

/-- Where the only look-up of a text has no closing parenthesis in front of its own and no `v`
behind it, the text can be cut at a look-up in no other way. -/
theorem eq_of_lookUp_eq {before key after before' key' after' : String}
    (plain : HasNoParenthesis key) (plain' : HasNoParenthesis key')
    (opened : ')' ∉ before.toList) (closed : 'v' ∉ after.toList)
    (same : before ++ lookUp key ++ after = before' ++ lookUp key' ++ after') :
    before = before' ∧ key = key' ∧ after = after' := by
  have same := congrArg String.toList same
  rw [toList_lookUp, toList_lookUp] at same
  have first : ')' ∉ before.toList ++ ['v', 'a', 'r'] ++ '(' :: '-' :: '-' :: key.toList := by
    simp [opened, plain.2]
  -- A parenthesis that is closed earlier would leave the other look-up behind the first.
  have opened' : ')' ∉ before'.toList := by
    intro there
    obtain ⟨front, behind, cut, none⟩ := List.eq_append_cons_of_mem there
    have earlier := same.trans (show _ = front ++ ')' :: (behind ++ ['v', 'a', 'r'] ++
      '(' :: '-' :: '-' :: key'.toList ++ ')' :: after'.toList) by simp [cut])
    have rest := (Text.eq_of_append_cons_eq first none earlier).2
    exact closed (by simp [rest])
  have first' : ')' ∉ before'.toList ++ ['v', 'a', 'r'] ++ '(' :: '-' :: '-' :: key'.toList := by
    simp [opened', plain'.2]
  obtain ⟨fronts, behind⟩ := Text.eq_of_append_cons_eq first first' same
  -- The key is what is left behind the last opening parenthesis.
  have reversed := congrArg List.reverse fronts
  have last : '(' ∉ key.toList.reverse ++ ['-', '-'] := by simp [plain.1]
  have last' : '(' ∉ key'.toList.reverse ++ ['-', '-'] := by simp [plain'.1]
  obtain ⟨keys, befores⟩ := Text.eq_of_append_cons_eq last last' (by simpa using reversed)
  simp only [List.append_cancel_right_eq, List.reverse_inj] at keys
  refine ⟨?_, String.toList_injective keys, String.toList_injective behind⟩
  exact String.toList_injective (by simpa using befores)

/-- What some calls of `rgb`, one in another, put around a text. -/
theorem exists_frame (calls : Nat) :
    ∃ front behind : String, (∀ text, rgbCall^[calls] text = front ++ text ++ behind) ∧
      (∀ c ∈ front.toList, c ∈ ['r', 'g', 'b', '(']) ∧ ∀ c ∈ behind.toList, c = ')' := by
  induction calls with
  | zero => exact ⟨"", "", by simp, by simp, by simp⟩
  | succ calls ih =>
    obtain ⟨front, behind, framed, opens, closes⟩ := ih
    refine ⟨"rgb(" ++ front, behind ++ ")", fun text => ?_, fun c there => ?_, fun c there => ?_⟩
    · rw [Function.iterate_succ_apply', framed, rgbCall]
      simp only [String.append_assoc]
    · rw [String.toList_append] at there
      exact (List.mem_append.1 there).elim id (opens c)
    · rw [String.toList_append] at there
      exact (List.mem_append.1 there).elim (closes c) List.mem_singleton.1

theorem expands_lookUp {key value result : String} {calls : Nat} (declared : declares key value)
    (expands : Expands declares (rgbCall^[calls] value) result) :
    Expands declares (rgbCall^[calls] (lookUp key)) result := by
  obtain ⟨front, behind, framed, -, -⟩ := exists_frame calls
  rw [framed] at expands
  exact .step (framed _) declared expands

/-- Inside calls of `rgb`, a look-up becomes the one value that is declared for it. -/
theorem expands_of_lookUp {key value result : String} {calls : Nat}
    (plain : ∀ key value, declares key value → HasNoParenthesis key)
    (declared : declares key value) (only : ∀ value', declares key value' → value' = value)
    (expands : Expands declares (rgbCall^[calls] (lookUp key)) result) :
    Expands declares (rgbCall^[calls] value) result := by
  obtain ⟨front, behind, framed, opens, closes⟩ := exists_frame calls
  have opened : ')' ∉ front.toList := fun there => absurd (opens _ there) (by decide)
  have closed : 'v' ∉ behind.toList := fun there => absurd (closes _ there) (by decide)
  cases expands with
  | done none =>
    refine absurd ?_ none
    rw [framed, toList_lookUp]
    exact ⟨front.toList, '-' :: '-' :: (key.toList ++ ')' :: behind.toList), by simp⟩
  | step spelled declared' expands =>
    rw [framed] at spelled
    obtain ⟨rfl, rfl, rfl⟩ :=
      eq_of_lookUp_eq (plain _ _ declared) (plain _ _ declared') opened closed spelled
    rw [only _ declared', ← framed] at expands
    exact expands

end Expands

namespace AliasChain

variable {library : Library} {theme : Option String} {channels : Channels} {n : Nat} {u : Token}
  {active : List Token}

theorem exists_cssValue (chain : AliasChain library theme channels n u)
    (here : u ∈ library.tokens) : ∃ text,
      outcome library ((library.substitution .customProperties theme).cssValue u) = .ok text := by
  cases chain with
  | literal color plain read => exact ⟨_, cssValue_literal here color plain read⟩
  | refers color plain only _ _ => exact ⟨_, cssValue_alias here color plain only⟩

theorem v_notMem_calls (channels : Channels) (calls : Nat) :
    'v' ∉ (rgbCall^[calls] channels.text).toList := by
  obtain ⟨front, behind, framed, opens, closes⟩ := exists_frame calls
  rw [framed, String.toList_append, String.toList_append]
  simp only [List.mem_append]
  rintro ((there | there) | there)
  · exact absurd (opens _ there) (by decide)
  · exact absurd (channels.chars_text _ there) (by decide)
  · exact absurd (closes _ there) (by decide)

/-- Each alias of a chain leaves a call of `rgb` around the channels. Where no two active tokens
declare one custom property and no name holds a parenthesis, nothing else can be left. -/
theorem expands (chain : AliasChain library theme channels n u) (here : u ∈ active)
    (actives : library.activeTokens theme = .ok active) {text : String} (calls : Nat)
    (written : outcome library ((library.substitution .customProperties theme).cssValue u) =
      .ok text) :
    Expands (Declares library theme active) (rgbCall^[calls] text)
        (rgbCall^[calls + n] channels.text) ∧
      ((active.map fun u => kebab u.name).Nodup →
        (∀ u ∈ active, HasNoParenthesis (kebab u.name)) →
        ∀ result, Expands (Declares library theme active) (rgbCall^[calls] text) result →
          result = rgbCall^[calls + n] channels.text) := by
  induction chain generalizing calls text with
  | literal color plain read =>
    have there := Library.mem_tokens_of_active actives here
    cases (cssValue_literal there color plain read).symm.trans written
    have none := v_notMem_calls channels calls
    exact ⟨(expands_iff_of_notMem none).2 rfl, fun _ _ _ => (expands_iff_of_notMem none).1⟩
  | @refers n u v raw name color plain only found chain ih =>
    have there := Library.mem_tokens_of_active actives here
    cases (cssValue_alias there color plain only).symm.trans written
    obtain ⟨next, rfl⟩ := Library.mem_active_of_find actives found
    obtain ⟨value, computed⟩ := chain.exists_cssValue (Library.mem_tokens_of_active actives next)
    have declared : Declares library theme active (kebab v.name) value :=
      ⟨v, next, rfl, computed⟩
    obtain ⟨behind, alone⟩ := ih next (calls + 1) computed
    rw [Nat.add_right_comm, Nat.add_assoc] at behind alone
    refine ⟨expands_lookUp declared behind, fun distinct names result ends => ?_⟩
    refine alone distinct names result (expands_of_lookUp ?_ declared ?_ ends)
    · rintro _ _ ⟨w, there, rfl, -⟩
      exact names w there
    · rintro value' ⟨w, there, same, computed'⟩
      cases List.inj_on_of_nodup_map distinct there next same
      exact Except.ok.inj (computed'.symm.trans computed)

end AliasChain

theorem rgbCall_iterate_eq_iff {text : String} {n : Nat} :
    rgbCall^[n] text = rgbCall text ↔ n = 1 := by
  have length (n : Nat) : (rgbCall^[n] text).toList.length = text.toList.length + 5 * n := by
    induction n with
    | zero => rfl
    | succ n ih =>
      rw [Function.iterate_succ_apply', toList_rgbCall]
      simp only [List.length_cons, List.length_append, List.length_nil, ih]
      omega
  constructor
  · intro same
    have lengths := congrArg (fun text : String => text.toList.length) same
    have once := length 1
    rw [Function.iterate_one] at once
    simp only [length, once] at lengths
    omega
  · rintro rfl
    rfl

/-- Where `n` aliases lead from an active color to a literal, the color is written in static form as
one call of `rgb`. Looking up what it is written as with custom properties leaves `n` calls, and
nothing else where no two active tokens declare one custom property and no name holds a parenthesis.
So the two agree for a single alias, and for no other number of them. -/
theorem expansion_calls_rgb_for_each_alias (library : Library) (theme : Option String)
    {active : List Token} (actives : library.activeTokens theme = .ok active) {u : Token}
    (here : u ∈ active) {channels : Channels} {n : Nat}
    (chain : AliasChain library theme channels n u) :
    outcome library ((library.substitution .static theme).cssValue u) =
        .ok (rgbCall channels.text) ∧
      (∃ text, outcome library ((library.substitution .customProperties theme).cssValue u) =
          .ok text ∧
        Expands (Declares library theme active) text (rgbCall^[n] channels.text) ∧
        ((active.map fun u => kebab u.name).Nodup →
          (∀ u ∈ active, HasNoParenthesis (kebab u.name)) →
          ∀ result, Expands (Declares library theme active) text result →
            result = rgbCall^[n] channels.text)) ∧
      (rgbCall^[n] channels.text = rgbCall channels.text ↔ n = 1) := by
  have there := Library.mem_tokens_of_active actives here
  obtain ⟨text, written⟩ := chain.exists_cssValue there
  have expands := chain.expands here actives 0 written
  rw [Nat.zero_add] at expands
  exact ⟨chain.cssValue_static there, ⟨text, written, expands⟩, rgbCall_iterate_eq_iff⟩

/-! ## An alias of an alias -/

/-- A color, an alias of it, and an alias of the alias. -/
def aliases : Library :=
  .ofTokens [.color "s.a" "a" "#112233", .color "s.b" "b" "{a}", .color "s.c" "c" "{b}"] (by decide)

namespace aliases

theorem chain : AliasChain aliases none ⟨17, 34, 51⟩ 2 (.color "s.c" "c" "{b}") := by
  have toA : Reference.pieces "{a}".toList = [.reference "a".toList] := by decide
  have toB : Reference.pieces "{b}".toList = [.reference "b".toList] := by decide
  have foundA : aliases.find none "a" = .ok (some (.color "s.a" "a" "#112233")) := rfl
  have foundB : aliases.find none "b" = .ok (some (.color "s.b" "b" "{a}")) := rfl
  have literal : Channels.ofLiteral "#112233" = .ok ⟨17, 34, 51⟩ := by decide
  exact .refers rfl rfl toB foundB (.refers rfl rfl toA foundA (.literal rfl rfl literal))

theorem last : Token.color "s.c" "c" "{b}" ∈ aliases.tokens := by decide

theorem distinct : (aliases.tokens.map fun u => kebab u.name).Nodup := by decide +kernel

theorem plain : ∀ u ∈ aliases.tokens, HasNoParenthesis (kebab u.name) := by
  unfold HasNoParenthesis
  decide +kernel

end aliases

/-- The stylesheet of the library leads to a call of `rgb` in a call of `rgb`. -/
theorem expansion_of_aliases :
    ∃ text, outcome aliases ((aliases.substitution .customProperties none).cssValue
        (.color "s.c" "c" "{b}")) = .ok text ∧
      Expands (Declares aliases none aliases.tokens) text "rgb(rgb(17, 34, 51))" ∧
      ∀ result, Expands (Declares aliases none aliases.tokens) text result →
        result = "rgb(rgb(17, 34, 51))" := by
  obtain ⟨-, ⟨text, written, expands, only⟩, -⟩ :=
    expansion_calls_rgb_for_each_alias aliases none rfl aliases.last aliases.chain
  exact ⟨text, written, expands, only aliases.distinct aliases.plain⟩

/-- What is written with custom properties does not always expand to what is written in static
form. -/
theorem not_expands_to_static :
    ¬ ∀ (library : Library) (theme : Option String) (active : List Token),
      library.activeTokens theme = .ok active → (active.map (·.name)).Nodup →
      (active.map fun u => kebab u.name).Nodup → ∀ u ∈ active, ∀ (n : Nat) (channels : Channels),
      1 ≤ n → AliasChain library theme channels n u →
      ∃ text result,
        outcome library ((library.substitution .customProperties theme).cssValue u) = .ok text ∧
        Expands (Declares library theme active) text result ∧
        outcome library ((library.substitution .static theme).cssValue u) = .ok result := by
  intro agrees
  obtain ⟨text, result, written, expands, static⟩ := agrees aliases none _ rfl (by decide)
    aliases.distinct _ aliases.last 2 _ (by decide) aliases.chain
  have once := aliases.chain.cssValue_static aliases.last
  have twice := (aliases.chain.expands aliases.last rfl 0 written).2 aliases.distinct
    aliases.plain result expands
  cases once.symm.trans static
  exact absurd twice (by decide)

end DesignTokens
