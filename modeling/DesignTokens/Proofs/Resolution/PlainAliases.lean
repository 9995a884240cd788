import DesignTokens.Proofs.Resolution.Channels

/-!
# Aliases that are no colors

Every value that is an expression is put into `calc(...)`, and then it is an expression again. So an
alias that is no color has the value of the token that it refers to, unless that value is a call of
`calc` itself: then the alias puts it into one more call (`outcome_value_of_isAlias`). Along a chain
of aliases a value stays as it is, or gets a call of `calc` from each of them
(`calc_for_each_alias`).
-/

namespace DesignTokens

open Inquiry

/-- A text inside a call of `calc`. -/
def calcCall (text : String) : String :=
  "calc(" ++ text ++ ")"

/-! ## Calls of `calc` -/

section Calls

variable {text : String}

/-- What is left of a text when arithmetic is wrapped is an expression only as a call of `calc`. -/
theorem isExpression_wrapCalc_iff :
    Calc.isExpression (wrapCalc text) = true ↔ IsCalcCall (wrapCalc text) := by
  refine ⟨fun accepted => ?_, IsCalcCall.isExpression⟩
  cases inner : Calc.isExpression text with
  | true => exact isCalcCall_wrapCalc inner
  | false =>
    rw [wrapCalc_of_not_isExpression inner, inner] at accepted
    cases accepted

theorem IsCalcCall.wrapCalc_eq (call : IsCalcCall text) : wrapCalc text = calcCall text :=
  wrapCalc_eq_calc_iff.2 call.isExpression

theorem IsCalcCall.calcCall (call : IsCalcCall text) : IsCalcCall (calcCall text) :=
  ⟨text, rfl, call.isExpression⟩

/-- A call of `calc` gets one more call each time that it is wrapped. -/
theorem IsCalcCall.wrapCalc_iterate (call : IsCalcCall text) (n : Nat) :
    wrapCalc^[n] text = DesignTokens.calcCall^[n] text := by
  induction n generalizing text with
  | zero => rfl
  | succ n ih =>
    rw [Function.iterate_succ_apply, Function.iterate_succ_apply, call.wrapCalc_eq]
    exact ih call.calcCall

/-- Calls around a text make it longer. -/
theorem calcCall_iterate_ne (n : Nat) : calcCall^[n + 1] text ≠ text := by
  have length (n : Nat) : (calcCall^[n] text).toList.length = text.toList.length + 6 * n := by
    induction n with
    | zero => rfl
    | succ n ih =>
      rw [Function.iterate_succ_apply', calcCall, toList_calc]
      simp only [List.length_append, List.length_cons, List.length_nil, ih]
      omega
  intro same
  have lengths := length (n + 1)
  rw [same] at lengths
  omega

end Calls

/-! ## One alias -/

section Alias

variable {library : Library} {theme : Option String} {s : Substitution} {t u : Token}
  {value : String} {nested : Bool}

/-- Every value has been wrapped when it was arithmetic. -/
theorem exists_wrapCalc_of_value (computed : outcome library (s.value nested t) = .ok value) :
    ∃ text, value = wrapCalc text := by
  unfold Substitution.value Substitution.valueAt at computed
  split at computed
  · cases computed
  · split at computed
    · cases computed
    · unfold Substitution.openValue at computed
      split at computed
      · obtain ⟨text, -, last⟩ := outcome_bind_eq_ok.1 computed
        cases last
        exact ⟨text, rfl⟩
      · obtain ⟨text, -, last⟩ := outcome_bind_eq_ok.1 computed
        cases last
        exact ⟨text, rfl⟩
      · cases computed

/-- Only a color has one value in other values and another one by itself. -/
theorem value_nested_of_not_color (other : t.kind ≠ .color) :
    s.value true t = s.value false t := by
  unfold Substitution.value Substitution.valueAt Substitution.openValue Substitution.plainValue
  simp only [other, false_and, if_false]

/-- An alias that is no color has the value of the other token, wrapped once more. -/
theorem outcome_value_of_isAlias (here : t ∈ library.tokens) (other : t.kind ≠ .color)
    (link : IsAlias library theme t u) (single : u.isBundle = false) :
    outcome library ((library.substitution .static theme).value nested t) = .ok value ↔
      ∃ v, outcome library ((library.substitution .static theme).value true u) = .ok v ∧
        value = wrapCalc v := by
  obtain ⟨name, isName, refers, found⟩ := link
  have occurs := Reference.occursIn_of_pieces (Reference.pieces_braced isName)
  simp only [outcome_value_eq_ok here refers occurs, outcome_resolve_braced isName,
    standsFor_iff_of_find found single, finished_other other]

theorem IsAlias.isBundle (link : IsAlias library theme t u) : t.isBundle = false := by
  obtain ⟨name, -, plain, -⟩ := link
  simp [Token.isBundle, plain, TokenValue.form]

end Alias

/-! ## Chains of aliases -/

section Chain

variable {library : Library} {theme : Option String} {t last : Token} {behind : List Token}
  {nested : Bool} {value : String}

/-- Each alias on the way to the end of a chain wraps the value there once more. -/
theorem outcome_value_of_chain
    (others : ∀ u ∈ t :: (behind ++ [last]), u ∈ library.tokens ∧ u.kind ≠ .color)
    (links : (t :: (behind ++ [last])).IsChain (IsAlias library theme))
    (single : last.isBundle = false) :
    outcome library ((library.substitution .static theme).value nested t) = .ok value ↔
      ∃ v, outcome library ((library.substitution .static theme).value false last) = .ok v ∧
        value = wrapCalc^[behind.length + 1] v := by
  induction behind generalizing t nested value with
  | nil =>
    obtain ⟨⟨here, other⟩, others⟩ := List.forall_mem_cons.1 others
    have link : IsAlias library theme t last := List.isChain_pair.1 links
    have plain := (others last List.mem_cons_self).2
    rw [outcome_value_of_isAlias here other link single, value_nested_of_not_color plain]
    rfl
  | cons next rest ih =>
    obtain ⟨⟨here, other⟩, others⟩ := List.forall_mem_cons.1 others
    rw [List.cons_append] at links others
    obtain ⟨link, links⟩ := List.isChain_cons_cons.1 links
    have single : next.isBundle = false := by
      obtain ⟨u, more, same⟩ := List.exists_cons_of_ne_nil
        (List.append_ne_nil_of_right_ne_nil rest (List.cons_ne_nil last []))
      rw [same] at links
      exact (List.isChain_cons_cons.1 links).1.isBundle
    rw [outcome_value_of_isAlias here other link single]
    simp only [ih others links, List.length_cons, Function.iterate_succ_apply' _ (rest.length + 1)]
    constructor
    · rintro ⟨_, ⟨v, computed, rfl⟩, rfl⟩
      exact ⟨v, computed, rfl⟩
    · rintro ⟨v, computed, rfl⟩
      exact ⟨_, ⟨v, computed, rfl⟩, rfl⟩

end Chain

/-- Where no token of a chain of aliases is a color, every alias has a value exactly when the token
at the end has one. It is the same value unless that is a call of `calc` with an expression in it,
which is the only form in which a value is an expression: then it is in one more call of `calc` for
each alias from the first one to the end. -/
theorem calc_for_each_alias (library : Library) (theme : Option String) {chain : List Token}
    {last : Token} (others : ∀ t ∈ chain ++ [last], t ∈ library.tokens ∧ t.kind ≠ .color)
    (links : (chain ++ [last]).IsChain (IsAlias library theme)) (single : last.isBundle = false)
    {front behind : List Token} {t : Token} (cut : chain = front ++ t :: behind) (nested : Bool) :
    let s := library.substitution .static theme
    ((∃ value, outcome library (s.value nested t) = .ok value) ↔
      ∃ v, outcome library (s.value false last) = .ok v) ∧
    ∀ v, outcome library (s.value false last) = .ok v →
      (Calc.isExpression v = true ↔ IsCalcCall v) ∧
      (¬ IsCalcCall v → outcome library (s.value nested t) = .ok v) ∧
      (IsCalcCall v →
        outcome library (s.value nested t) = .ok (calcCall^[behind.length + 1] v) ∧
          calcCall^[behind.length + 1] v ≠ v) := by
  subst cut
  rw [List.append_assoc] at others links
  have along {value : String} :
      outcome library ((library.substitution .static theme).value nested t) = .ok value ↔
        ∃ v, outcome library ((library.substitution .static theme).value false last) = .ok v ∧
          value = wrapCalc^[behind.length + 1] v :=
    outcome_value_of_chain (fun u there => others u (List.mem_append_right front there))
      links.right_of_append single
  refine ⟨?_, fun v computed => ⟨?_, fun plain => ?_, fun call => ?_⟩⟩
  · constructor
    · rintro ⟨value, computed⟩
      obtain ⟨v, computed, -⟩ := along.1 computed
      exact ⟨v, computed⟩
    · rintro ⟨v, computed⟩
      exact ⟨_, along.2 ⟨v, computed, rfl⟩⟩
  · obtain ⟨text, rfl⟩ := exists_wrapCalc_of_value computed
    exact isExpression_wrapCalc_iff
  · obtain ⟨text, rfl⟩ := exists_wrapCalc_of_value computed
    have other := Bool.eq_false_iff.2 (mt isExpression_wrapCalc_iff.1 plain)
    refine along.2 ⟨_, computed, (Function.iterate_fixed ?_ _).symm⟩
    exact wrapCalc_of_not_isExpression other
  · refine ⟨along.2 ⟨v, computed, (call.wrapCalc_iterate _).symm⟩, calcCall_iterate_ne _⟩

/-! ## A gutter -/

/-- A product, an alias of it, and an alias of the alias. -/
def gutters : Library :=
  .ofTokens [.spacing "s.a" "a" "8px * 2", .spacing "s.b" "b" "{a}", .spacing "s.c" "c" "{b}"]
    (by decide)

namespace gutters

theorem find_a : gutters.find none "a" = .ok (some (.spacing "s.a" "a" "8px * 2")) := rfl

theorem find_b : gutters.find none "b" = .ok (some (.spacing "s.b" "b" "{a}")) := rfl

theorem isName_a : Reference.IsName "a" := ⟨by decide, by decide, by decide⟩

theorem isName_b : Reference.IsName "b" := ⟨by decide, by decide, by decide⟩

theorem value_a : outcome gutters ((gutters.substitution .static none).value false
    (.spacing "s.a" "a" "8px * 2")) = .ok "calc(8px * 2)" := by
  decide +kernel

end gutters

/-- Each of the two aliases adds a call. -/
theorem calc_for_each_alias_gutters :
    outcome gutters ((gutters.substitution .static none).value false (.spacing "s.c" "c" "{b}")) =
      .ok "calc(calc(calc(8px * 2)))" := by
  have others : ∀ t ∈ [Token.spacing "s.c" "c" "{b}", .spacing "s.b" "b" "{a}"] ++
      [.spacing "s.a" "a" "8px * 2"], t ∈ gutters.tokens ∧ t.kind ≠ .color := by decide
  have links : ([Token.spacing "s.c" "c" "{b}", .spacing "s.b" "b" "{a}"] ++
      [Token.spacing "s.a" "a" "8px * 2"]).IsChain (IsAlias gutters none) :=
    .cons_cons ⟨"b", gutters.isName_b, rfl, gutters.find_b⟩
      (.cons_cons ⟨"a", gutters.isName_a, rfl, gutters.find_a⟩ (.singleton _))
  have call : IsCalcCall "calc(8px * 2)" := ⟨"8px * 2", rfl, by decide +kernel⟩
  have cut : [Token.spacing "s.c" "c" "{b}", .spacing "s.b" "b" "{a}"] =
      [] ++ .spacing "s.c" "c" "{b}" :: [.spacing "s.b" "b" "{a}"] := rfl
  obtain ⟨-, along⟩ := calc_for_each_alias gutters none others links rfl cut false
  exact ((along _ gutters.value_a).2.2 call).1

/-- An alias that is no color does not always have the value of the token that it refers to. -/
theorem not_value_of_alias :
    ¬ ∀ (library : Library) (theme : Option String) (t u : Token) (raw v : String),
      t ∈ library.tokens → t.kind ≠ .color → IsAlias library theme t u → u.kind ≠ .color →
      u.value = .plain raw →
      outcome library ((library.substitution .static theme).value false u) = .ok v →
      outcome library ((library.substitution .static theme).value false t) = .ok v := by
  intro same
  have link : IsAlias gutters none (.spacing "s.b" "b" "{a}") (.spacing "s.a" "a" "8px * 2") :=
    ⟨"a", gutters.isName_a, rfl, gutters.find_a⟩
  have once := same gutters none _ _ _ _ (by decide) (by decide) link (by decide) rfl gutters.value_a
  have twice : outcome gutters ((gutters.substitution .static none).value false
      (.spacing "s.b" "b" "{a}")) = .ok "calc(calc(8px * 2))" := by decide +kernel
  exact absurd (Except.ok.inj (twice.symm.trans once)) (by decide)

end DesignTokens
