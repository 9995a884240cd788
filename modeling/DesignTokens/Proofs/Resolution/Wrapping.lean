import DesignTokens.Proofs.Calc.Grafting
import DesignTokens.Proofs.Kebab
import DesignTokens.Proofs.Resolution.Composition

/-!
# Which values are put into `calc`

The value of a token that is no color is its text with the references replaced, inside `calc(...)`
when that is an expression. With custom properties a reference is replaced by a look-up, in static
form by the value of another token. Where that is an expression inside `calc(...)` itself, what is an
expression with look-ups is one with values (`isExpression_replace`), so a value that is put into
`calc(...)` with custom properties is put into it in static form too
(`expansion_keeps_calc`).
-/

namespace DesignTokens

open Inquiry

/-- The text is an expression inside `calc(...)`. -/
def IsCalcCall (text : String) : Prop :=
  ∃ inner, text = "calc(" ++ inner ++ ")" ∧ Calc.isExpression inner

/-- The value of a token with the text `raw` is the resolved text, put into `calc(...)`. -/
def PutsIntoCalc (library : Library) (s : Substitution) (nested : Bool) (t : Token) (raw : String) :
    Prop :=
  ∃ text, outcome library (s.resolve raw) = .ok text ∧
    outcome library (s.value nested t) = .ok ("calc(" ++ text ++ ")")

/-! ## Expressions inside `calc` -/

theorem toList_calc (inner : String) :
    ("calc(" ++ inner ++ ")").toList = ['c', 'a', 'l', 'c', '('] ++ inner.toList ++ [')'] := by
  have opening : ("calc(" : String).toList = ['c', 'a', 'l', 'c', '('] := rfl
  have closing : (")" : String).toList = [')'] := rfl
  rw [String.toList_append, String.toList_append, opening, closing]

/-- An expression inside `calc` is an expression. -/
theorem IsCalcCall.isExpression {text : String} (call : IsCalcCall text) :
    Calc.isExpression text := by
  obtain ⟨inner, rfl, accepted⟩ := call
  obtain ⟨e, written, admissible, operator⟩ := Calc.exists_expression_of_isExpression accepted
  have neutral : (Calc.Operand.group true e).Neutral := Calc.neutral_group admissible
  refine Calc.isExpression_of_expression (e := .operand (.group true e)) ?_ ?_ operator
  · rw [toList_calc, ← written]
    rfl
  · exact Calc.Expression.admissible_operand.2 neutral.admissible

/-- A call of `calc` is longer than what is in it. -/
theorem calc_ne (text : String) : "calc(" ++ text ++ ")" ≠ text := by
  intro same
  have lengths := congrArg (fun text : String => text.toList.length) same
  simp only [toList_calc, List.length_append, List.length_cons] at lengths
  omega

/-- What is put into `calc` is what is an expression. -/
theorem wrapCalc_eq_calc_iff {text : String} :
    wrapCalc text = "calc(" ++ text ++ ")" ↔ Calc.isExpression text = true := by
  unfold wrapCalc
  cases Calc.isExpression text with
  | true => exact iff_of_true rfl rfl
  | false => exact iff_of_false (calc_ne text).symm nofun

/-! ## Texts with look-ups and texts with values -/

/-- A custom property has no closing parenthesis in its name unless the token has one. -/
theorem closing_not_mem_kebab {name : String} (plain : ')' ∉ name.toList) :
    ')' ∉ (kebab name).toList := by
  intro there
  rcases mem_of_mem_kebab there with hyphen | here | letter
  · exact absurd hyphen (by decide)
  · exact plain here
  · exact absurd letter (by decide)

theorem toList_variableCall (name : String) :
    (variableCall name).toList = ['v', 'a', 'r', '(', '-', '-'] ++ (kebab name).toList ++ [')'] := by
  have opening : ("var(--" : String).toList = ['v', 'a', 'r', '(', '-', '-'] := rfl
  have closing : (")" : String).toList = [')'] := rfl
  rw [variableCall, String.toList_append, String.toList_append, opening, closing]

namespace Reference

/-- Some pieces with values that are expressions inside `calc` are an expression when the pieces with
look-ups are one. The look-ups give way to values one after another. -/
theorem isExpression_replace {value : String → String} (front : List Char) {pieces : List Piece}
    (calls : ∀ chars, .reference chars ∈ pieces →
      ')' ∉ chars ∧ IsCalcCall (value (String.ofList chars)))
    (accepted : Calc.isExpression (String.ofList (front ++ replace variableCall pieces))) :
    Calc.isExpression (String.ofList (front ++ replace value pieces)) := by
  induction pieces generalizing front with
  | nil => simpa [replace] using accepted
  | cons piece rest ih =>
    have after := fun chars there => calls chars (List.mem_cons_of_mem _ there)
    cases piece with
    | char c =>
      have moved (value : String → String) :
          front ++ replace value (.char c :: rest) = (front ++ [c]) ++ replace value rest := by
        simp [replace]
      rw [moved] at accepted ⊢
      exact ih _ after accepted
    | reference name =>
      have moved (value : String → String) : front ++ replace value (.reference name :: rest) =
          (front ++ (value (String.ofList name)).toList) ++ replace value rest := by
        simp [replace]
      obtain ⟨plain, inner, call, isInner⟩ := calls name List.mem_cons_self
      rw [moved] at accepted ⊢
      have key : ')' ∉ (kebab (String.ofList name)).toList :=
        closing_not_mem_kebab (by rwa [String.toList_ofList])
      have spelled : (String.ofList (front ++ (variableCall (String.ofList name)).toList ++
          replace variableCall rest)).toList = front ++ ['v', 'a', 'r', '(', '-', '-'] ++
          (kebab (String.ofList name)).toList ++ ')' :: replace variableCall rest := by
        simp [toList_variableCall]
      refine ih _ after (Calc.isExpression_of_lookUp accepted isInner key spelled ?_)
      rw [String.toList_ofList, call]

theorem isExpression_replaceIn {value : String → String} {raw : String}
    (calls : ∀ name ∈ names raw, ')' ∉ name.toList ∧ IsCalcCall (value name))
    (accepted : Calc.isExpression (replaceIn variableCall raw)) :
    Calc.isExpression (replaceIn value raw) := by
  refine isExpression_replace [] (fun chars there => ?_) accepted
  obtain ⟨plain, call⟩ := calls _ (mem_names.2 ⟨chars, there, rfl⟩)
  exact ⟨by rwa [String.toList_ofList] at plain, call⟩

end Reference

/-! ## Values of tokens that are no colors -/

section Values

variable {library : Library} {theme : Option String} {t : Token} {raw : String} {nested : Bool}

/-- An open token whose text has no reference has the value of its text. -/
theorem outcome_openValue_of_not_occursIn {expand : String → Inquiry String}
    (plain : t.value = .plain raw) (other : t.kind ≠ .color)
    (none : Reference.occursIn raw = false) :
    outcome library (Substitution.openValue expand t nested) = .ok (wrapCalc raw) := by
  unfold Substitution.openValue
  rw [plain]
  refine outcome_bind_eq_ok.2 ⟨raw, ?_, rfl⟩
  simp [Substitution.plainValue, none, other]

theorem finished_other (other : t.kind ≠ .color) (text : String) :
    finished t.kind nested text = wrapCalc text := by
  rw [finished_eq, if_neg fun color => other color.1]

/-- With custom properties a text is resolved to the text with a look-up for each reference. -/
theorem outcome_resolve_customProperties :
    outcome library ((library.substitution .customProperties theme).resolve raw) =
      .ok (Reference.replaceIn variableCall raw) :=
  Reference.outcome_substituteIn fun _ _ => rfl

/-- With custom properties the value has a look-up for each reference. -/
theorem outcome_value_customProperties (here : t ∈ library.tokens) (plain : t.value = .plain raw)
    (other : t.kind ≠ .color) :
    outcome library ((library.substitution .customProperties theme).value nested t) =
      .ok (wrapCalc (Reference.replaceIn variableCall raw)) := by
  obtain ⟨room, full⟩ := Nat.exists_eq_succ_of_ne_zero (List.length_pos_of_mem here).ne'
  unfold Substitution.value
  rw [Library.substitution_room, full, Substitution.valueAt, if_neg List.not_mem_nil]
  cases occurs : Reference.occursIn raw with
  | false =>
    rw [outcome_openValue_of_not_occursIn plain other occurs,
      Reference.replaceIn_of_not_occursIn occurs]
  | true =>
    refine (outcome_openValue_plain plain occurs).2 ⟨_, ?_, (finished_other other _).symm⟩
    exact Reference.outcome_substituteIn fun _ _ => rfl

/-- In static form the value has what it stands for in the place of each reference. -/
theorem outcome_value_static (here : t ∈ library.tokens) (plain : t.value = .plain raw)
    (other : t.kind ≠ .color) {value : String → String}
    (stands : ∀ name ∈ Reference.names raw, StandsFor library theme name (value name)) :
    outcome library ((library.substitution .static theme).value nested t) =
      .ok (wrapCalc (Reference.replaceIn value raw)) := by
  refine (outcome_value_eq_ok_iff_open here).2 ?_
  cases occurs : Reference.occursIn raw with
  | false =>
    rw [outcome_openValue_of_not_occursIn plain other occurs,
      Reference.replaceIn_of_not_occursIn occurs]
  | true =>
    refine (outcome_openValue_plain plain occurs).2 ⟨_, ?_, (finished_other other _).symm⟩
    exact outcome_resolve_eq_ok.2 ⟨value, stands, rfl⟩

theorem isBundle_of_value {s : Substitution} {text : String}
    (computed : outcome library (s.value nested t) = .ok text) : t.isBundle = false := by
  unfold Substitution.value at computed
  unfold Substitution.valueAt at computed
  split at computed
  · cases computed
  · split at computed
    · cases computed
    · obtain ⟨raw, some, -⟩ := outcome_openValue_eq_ok computed
      unfold Token.rawText? at some
      unfold Token.isBundle
      split at some
      · next form => rw [form]; rfl
      · next form => rw [form]; rfl
      · cases some

end Values

/-- An expression stays one when a variable in it is expanded to an expression inside `calc(...)`. So
where every reference of a token that is no color leads to such a value, a value that is put into
`calc(...)` with custom properties is put into it in static form too. -/
theorem expansion_keeps_calc :
    (∀ text inner : String, Calc.isExpression text → Calc.isExpression inner →
      ∃ tokens, Calc.scan text.toList = .ok tokens ∧
        ∀ token ∈ tokens, token.kind = .customProperty →
          Calc.isExpression (token.replaceIn text ("calc(" ++ inner ++ ")"))) ∧
    ∀ (library : Library) (theme : Option String), ∀ t ∈ library.tokens, ∀ raw,
      t.value = .plain raw → t.kind ≠ .color →
      (∀ name ∈ Reference.names raw, ')' ∉ name.toList ∧
        ∃ u text, library.find theme name = .ok (some u) ∧
          outcome library ((library.substitution .static theme).value true u) = .ok text ∧
          IsCalcCall text) →
      ∀ nested, PutsIntoCalc library (library.substitution .customProperties theme) nested t raw →
        PutsIntoCalc library (library.substitution .static theme) nested t raw := by
  refine ⟨fun text inner => Calc.isExpression_replaceIn, ?_⟩
  rintro library theme t here raw plain other leads nested ⟨text, resolved, computed⟩
  rw [outcome_resolve_customProperties] at resolved
  cases resolved
  rw [outcome_value_customProperties here plain other] at computed
  have accepted := wrapCalc_eq_calc_iff.1 (Except.ok.inj computed)
  have values : ∀ name ∈ Reference.names raw,
      ∃ text, StandsFor library theme name text ∧ IsCalcCall text := by
    intro name named
    obtain ⟨-, u, text, found, computed, call⟩ := leads name named
    exact ⟨text, .token found (isBundle_of_value computed) computed, call⟩
  choose! value stands calls using values
  have accepted : Calc.isExpression (Reference.replaceIn value raw) :=
    Reference.isExpression_replaceIn
      (fun name named => ⟨(leads name named).1, calls name named⟩) accepted
  refine ⟨_, outcome_resolve_eq_ok.2 ⟨value, stands, rfl⟩, ?_⟩
  rw [outcome_value_static here plain other stands, wrapCalc_eq_calc_iff.2 accepted]

/-- A length that refers to a product. -/
def sum : Library :=
  .ofTokens [.spacing "s.base" "base" "8px * 2", .spacing "s.sum" "sum" "{base} + 1px"] (by decide)

theorem expansion_keeps_calc_sum :
    Calc.isExpression "2 * calc(8px * 2)" = true ∧
      PutsIntoCalc sum (sum.substitution .static none) false
        (.spacing "s.sum" "sum" "{base} + 1px") "{base} + 1px" := by
  obtain ⟨expands, keeps⟩ := expansion_keeps_calc
  constructor
  · obtain ⟨tokens, scanned, stays⟩ :=
      expands "2 * var(--a)" "8px * 2" (by decide +kernel) (by decide +kernel)
    have cut : Calc.scan "2 * var(--a)".toList = .ok [⟨.number, ['2'], 0⟩, ⟨.blank, [' '], 1⟩,
        ⟨.operator, ['*'], 2⟩, ⟨.blank, [' '], 3⟩, ⟨.customProperty, "var(--a)".toList, 4⟩] := by
      decide +kernel
    cases scanned.symm.trans cut
    have whole : Calc.Token.replaceIn ⟨.customProperty, "var(--a)".toList, 4⟩ "2 * var(--a)"
        "calc(8px * 2)" = "2 * calc(8px * 2)" := by decide +kernel
    rw [← whole]
    exact stays _ (by simp) rfl
  · have here : Token.spacing "s.sum" "sum" "{base} + 1px" ∈ sum.tokens := by decide
    refine keeps sum none _ here _ rfl (by decide) ?_ false ⟨"var(--base) + 1px", ?_, ?_⟩
    · have names : Reference.names "{base} + 1px" = ["base"] := by decide +kernel
      rw [names, List.forall_mem_singleton]
      refine ⟨by decide, .spacing "s.base" "base" "8px * 2", "calc(8px * 2)", ?_, ?_, ?_⟩
      · decide +kernel
      · decide +kernel
      · exact ⟨"8px * 2", rfl, by decide +kernel⟩
    · decide +kernel
    · decide +kernel

end DesignTokens
