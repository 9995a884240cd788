import DesignTokens.Proofs.Reference
import DesignTokens.Proofs.Resolution.Wrapping

/-!
# Names that a calculation can look up

The name of a token is put into kebab case before it becomes the name of a custom property, and an
expression is cut into its look-ups by a rule of its own. Of the names of ASCII characters, those
that have a look-up in an expression are the ones that are made of letters, digits and separators,
with something else than separators in them (`MakesVariable`). For any other name neither the
look-up nor a product with it is read, so it is not put into `calc(...)` (`lookUp_reads_name`).

The separators of a name become hyphens, and the other characters of ASCII are written in lower case
one by one (`filter_kebab_of_ascii`). That leaves a letter a letter and a sign a sign. So a sign that
is not for variables is still there for the expression to refuse.
-/

namespace DesignTokens

open Inquiry

/-- The name is made of letters, digits and separators, and not of separators only. -/
structure MakesVariable (name : String) : Prop where
  plain : ∀ c ∈ name.toList, Calc.isLetter c ∨ Calc.isDigit c ∨ Kebab.isSeparator c
  some : ∃ c ∈ name.toList, Calc.isLetter c ∨ Calc.isDigit c

instance (name : String) : Decidable (MakesVariable name) :=
  decidable_of_iff
    (name.toList.all (fun c => Calc.isLetter c || Calc.isDigit c || Kebab.isSeparator c) = true ∧
      name.toList.any (fun c => Calc.isLetter c || Calc.isDigit c) = true) <| by
    simp only [List.all_eq_true, List.any_eq_true, Bool.or_eq_true, or_assoc]
    exact ⟨fun made => ⟨made.1, made.2⟩, fun made => ⟨made.plain, made.some⟩⟩

/-! ## Characters -/

theorem not_separator_of_letter_or_digit {c : Char} (plain : Calc.isLetter c ∨ Calc.isDigit c) :
    Kebab.isSeparator c = false := by
  rw [Bool.eq_false_iff]
  intro separates
  simp only [Kebab.isSeparator, Bool.or_eq_true, beq_iff_eq] at separates
  rcases separates with ((rfl | rfl) | rfl) | rfl <;> exact absurd plain (by decide)

theorem isNameChar_iff_of_not_separator {c : Char} (plain : Kebab.isSeparator c = false) :
    Calc.isNameChar c ↔ Calc.isLetter c ∨ Calc.isDigit c := by
  simp only [Kebab.isSeparator, Bool.or_eq_false_iff] at plain
  simp [Calc.isNameChar, plain]

/-- A capital of ASCII and its small letter are both letters. -/
theorem letter_of_capital {c : Char} (capital : 'A' ≤ c ∧ c ≤ 'Z') :
    Calc.isLetter c ∧ Calc.isLetter (Text.lowerChar c) := by
  have moved := Text.toNat_lowerChar_of_capital capital
  have first : 65 ≤ c.toNat := capital.1
  have last : c.toNat ≤ 90 := capital.2
  have low : 'a' ≤ Text.lowerChar c := by
    show 97 ≤ (Text.lowerChar c).toNat
    omega
  have high : Text.lowerChar c ≤ 'z' := by
    show (Text.lowerChar c).toNat ≤ 122
    omega
  simp [Calc.isLetter, capital, low, high]

/-- Lower case makes no letter or digit of a sign, and no sign of a letter or digit. -/
theorem lowerChar_letter_or_digit_iff {c : Char} (ascii : c.toNat < 128) :
    Calc.isLetter (Text.lowerChar c) ∨ Calc.isDigit (Text.lowerChar c) ↔
      Calc.isLetter c ∨ Calc.isDigit c := by
  by_cases capital : 'A' ≤ c ∧ c ≤ 'Z'
  · obtain ⟨letter, small⟩ := letter_of_capital capital
    exact iff_of_true (.inl small) (.inl letter)
  · rw [Text.lowerChar_of_not_capital ascii capital]

/-! ## Names -/

section Names

variable {name : String}

/-- But for the separators, a name of ASCII characters is put into kebab case one by one. -/
theorem filter_kebab_of_ascii (ascii : ∀ c ∈ name.toList, c.toNat < 128) :
    (kebab name).toList.filter (!Kebab.isSeparator ·) =
      (name.toList.filter (!Kebab.isSeparator ·)).map Text.lowerChar := by
  have each : (Kebab.words name.toList).map Text.lower =
      (Kebab.words name.toList).map (List.map Text.lowerChar) :=
    List.map_congr_left fun word there =>
      Text.lower_of_ascii fun c inside => ascii c (Kebab.mem_of_mem_words there inside).1
  rw [← Kebab.flatten_words, words_kebab, each, ← List.map_flatten, Kebab.flatten_words]

theorem lowerChar_mem_kebab {c : Char} (ascii : ∀ c ∈ name.toList, c.toNat < 128)
    (there : c ∈ name.toList) (plain : Kebab.isSeparator c = false) :
    Text.lowerChar c ∈ (kebab name).toList ∧ Kebab.isSeparator (Text.lowerChar c) = false := by
  have kept : Text.lowerChar c ∈ (kebab name).toList.filter (!Kebab.isSeparator ·) := by
    rw [filter_kebab_of_ascii ascii]
    exact List.mem_map_of_mem (List.mem_filter.2 ⟨there, by simp [plain]⟩)
  simpa using List.mem_filter.1 kept

/-- A hyphen is the only separator in kebab case. -/
theorem eq_hyphen_of_mem_kebab {c : Char} (there : c ∈ (kebab name).toList)
    (separates : Kebab.isSeparator c) : c = '-' := by
  obtain ⟨dot, underscore, blank, -⟩ := (isKebab_kebab name).plain c there
  simpa [Kebab.isSeparator, dot, underscore, blank] using separates

/-- The names that have custom properties with the characters of a variable are those that are made
of letters, digits and separators. -/
theorem makesVariable_iff (ascii : ∀ c ∈ name.toList, c.toNat < 128) :
    MakesVariable name ↔
      (kebab name).toList ≠ [] ∧ ∀ c ∈ (kebab name).toList, Calc.isNameChar c := by
  constructor
  · rintro ⟨plain, first, isFirst, letter⟩
    have kept := lowerChar_mem_kebab ascii isFirst (not_separator_of_letter_or_digit letter)
    refine ⟨List.ne_nil_of_mem kept.1, fun c there => ?_⟩
    cases separates : Kebab.isSeparator c with
    | true => rw [eq_hyphen_of_mem_kebab there separates]; rfl
    | false =>
      have kept : c ∈ (kebab name).toList.filter (!Kebab.isSeparator ·) :=
        List.mem_filter.2 ⟨there, by simp [separates]⟩
      rw [filter_kebab_of_ascii ascii] at kept
      obtain ⟨d, isChar, rfl⟩ := List.mem_map.1 kept
      obtain ⟨inside, other⟩ : d ∈ name.toList ∧ Kebab.isSeparator d = false := by
        simpa using List.mem_filter.1 isChar
      rw [isNameChar_iff_of_not_separator separates, lowerChar_letter_or_digit_iff (ascii d inside)]
      simpa [other] using plain d inside
  · rintro ⟨nonempty, names⟩
    have letters : ∀ c ∈ name.toList, Kebab.isSeparator c = false →
        Calc.isLetter c ∨ Calc.isDigit c := by
      intro c there other
      obtain ⟨kept, other⟩ := lowerChar_mem_kebab ascii there other
      rw [← lowerChar_letter_or_digit_iff (ascii c there), ← isNameChar_iff_of_not_separator other]
      exact names _ kept
    constructor
    · intro c there
      cases separates : Kebab.isSeparator c with
      | true => exact .inr (.inr rfl)
      | false => exact (letters c there separates).imp_right .inl
    · have some : Kebab.words name.toList ≠ [] := by
        rw [Ne, ← kebab_eq_empty_iff, ← String.toList_inj]
        exact nonempty
      obtain ⟨word, there⟩ := List.exists_mem_of_ne_nil _ some
      obtain ⟨c, inside⟩ := List.exists_mem_of_ne_nil _ (Kebab.words_nonempty there)
      obtain ⟨isChar, other⟩ := Kebab.mem_of_mem_words there inside
      exact ⟨c, isChar, letters c isChar other⟩

/-! ## Look-ups -/

/-- The look-up of a name is one of the expression's. -/
def IsLookUp (name : String) : Prop :=
  ∃ v : Calc.VariableName, (variableCall name).toList = v.call

theorem isLookUp_iff (ascii : ∀ c ∈ name.toList, c.toNat < 128) :
    IsLookUp name ↔ MakesVariable name := by
  rw [makesVariable_iff ascii]
  constructor
  · rintro ⟨v, same⟩
    have same : (kebab name).toList = v.chars := by
      rw [toList_variableCall, Calc.VariableName.call] at same
      simpa using same
    rw [same]
    exact ⟨v.nonempty, v.isName⟩
  · rintro ⟨nonempty, names⟩
    refine ⟨⟨(kebab name).toList, nonempty, names⟩, ?_⟩
    rw [toList_variableCall, Calc.VariableName.call]

/-- A look-up is read as one token from its first character to its last. -/
theorem scan_variableCall_iff :
    Calc.scan (variableCall name).toList = .ok [⟨.customProperty, (variableCall name).toList, 0⟩] ↔
      IsLookUp name := by
  generalize spelling : (variableCall name).toList = text
  constructor
  · intro scanned
    obtain ⟨v, same⟩ := (Calc.scanAt_sound scanned).1 _ (List.mem_singleton_self _)
    exact ⟨v, spelling.trans same⟩
  · rintro ⟨v, same⟩
    have spelled : Calc.Spelled .customProperty text := ⟨v, spelling.symm.trans same⟩
    have cut : Calc.scanAt 0 (text ++ []) = _ := Calc.scanAt_spelled spelled trivial
    rw [List.append_nil] at cut
    rw [Calc.scan, cut, Calc.scanAt]
    rfl

theorem blank_not_mem_variableCall : ' ' ∉ (variableCall name).toList := by
  rw [toList_variableCall]
  intro there
  have inside : ' ' ∈ (kebab name).toList := by simpa using there
  exact ((isKebab_kebab name).plain _ inside).2.2.1 rfl

theorem blank_not_mem_call (v : Calc.VariableName) : ' ' ∉ v.call := by
  intro there
  have inside : ' ' ∈ v.chars := by simpa [Calc.VariableName.call] using there
  exact absurd (v.isName _ inside) (by decide)

/-- What starts an expression as a look-up does is one, up to the first blank. -/
theorem isLookUp_of_isExpression {behind : String}
    (accepted : Calc.isExpression (variableCall name ++ " " ++ behind)) : IsLookUp name := by
  obtain ⟨e, written, -⟩ := Calc.exists_expression_of_isExpression accepted
  obtain ⟨o, rest, first, blank⟩ := e.exists_first
  obtain ⟨c, letters, front, -⟩ := o.exists_front
  have written : o.written ++ rest = (variableCall name).toList ++ ' ' :: behind.toList := by
    rw [← first, written]
    simp [String.toList_append]
  have starts : o.written = 'v' :: letters := by
    rw [front, toList_variableCall] at written
    rw [front, (List.cons.inj written).1]
  obtain ⟨v, rfl⟩ := Calc.Operand.exists_lookup starts
  have plain : ' ' ∉ v.call := blank_not_mem_call v
  cases rest with
  | nil =>
    have whole : v.call = _ := (List.append_nil _).symm.trans written
    exact absurd (by simp [whole]) plain
  | cons c rest =>
    obtain rfl : c = ' ' := blank c rfl
    exact ⟨v, (Text.eq_of_append_cons_eq plain blank_not_mem_variableCall written).1.symm⟩

/-- The product of a variable and two. -/
def twice (v : Calc.VariableName) : Calc.Expression :=
  .binary (.operand (.lookup v)) .times
    (.number ⟨false, ['2'], .whole (List.cons_ne_nil _ _) (List.forall_mem_singleton.2 rfl)⟩ none)

theorem admissible_twice (v : Calc.VariableName) : (twice v).Admissible := by
  refine Calc.Expression.admissible_binary.2 ⟨?_, ?_, nofun, nofun⟩
  · exact Calc.Expression.admissible_operand.2 (Calc.Operand.admissible_of_levels_eq_nil rfl)
  · exact Calc.Operand.admissible_of_levels_eq_nil rfl

theorem isExpression_product_iff :
    Calc.isExpression (variableCall name ++ " * 2") = true ↔ IsLookUp name := by
  have cut : variableCall name ++ " * 2" = variableCall name ++ " " ++ "* 2" := by
    rw [String.append_assoc]
    rfl
  constructor
  · intro accepted
    rw [cut] at accepted
    exact isLookUp_of_isExpression accepted
  · rintro ⟨v, same⟩
    refine Calc.isExpression_of_expression (e := twice v) ?_ (admissible_twice v) rfl
    rw [String.toList_append, same]
    exact List.append_assoc ..

end Names

/-! ## Values -/

/-- The value of a reference in front of plain text is in its place. -/
theorem Reference.replaceIn_braced_append {name behind : String} (isName : IsName name)
    (plain : '{' ∉ behind.toList) (value : String → String) :
    replaceIn value (braced name ++ behind) = value name ++ behind := by
  have around := pieces_around isName [] behind.toList
  have cut : (braced name ++ behind).toList =
      [] ++ '{' :: name.toList ++ '}' :: behind.toList := by
    simp [String.toList_append, toList_braced]
  refine String.toList_injective ?_
  rw [replaceIn, cut, around, pieces_of_plain plain]
  simp [replace, pieces, List.flatMap_map, String.toList_append]

/-- For the names of ASCII characters it is the same to be made of letters, digits and separators,
and not of separators only; to have a look-up that is read as one variable; and to have a look-up
that can stand in a product. So twice the reference to such a name is put into `calc(...)` with
custom properties, and twice the reference to any other name is not. -/
theorem lookUp_reads_name :
    ∀ name : String, (∀ c ∈ name.toList, c.toNat < 128) →
      (MakesVariable name ↔ Calc.scan (variableCall name).toList =
        .ok [⟨.customProperty, (variableCall name).toList, 0⟩]) ∧
      (MakesVariable name ↔ Calc.isExpression (variableCall name ++ " * 2") = true) ∧
      ∀ (library : Library) (theme : Option String), ∀ t ∈ library.tokens, t.kind ≠ .color →
        Reference.IsName name → t.value = .plain (Reference.braced name ++ " * 2") → ∀ nested,
          outcome library ((library.substitution .customProperties theme).value nested t) =
            .ok (if MakesVariable name then "calc(" ++ variableCall name ++ " * 2)"
              else variableCall name ++ " * 2") := by
  intro name ascii
  have scanned := (isLookUp_iff ascii).symm.trans scan_variableCall_iff.symm
  have read := (isLookUp_iff ascii).symm.trans isExpression_product_iff.symm
  refine ⟨scanned, read, fun library theme t here other isName plain nested => ?_⟩
  rw [outcome_value_customProperties here plain other,
    Reference.replaceIn_braced_append isName (by decide)]
  refine congrArg Except.ok ?_
  by_cases made : MakesVariable name
  · rw [if_pos made, wrapCalc_eq_calc_iff.2 (read.1 made)]
    simp [String.append_assoc]
  · have refused := mt read.2 made
    rw [if_neg made, wrapCalc, if_neg refused]

/-- Lengths that refer to names with and without signs. -/
def scaled : Library :=
  .ofTokens [.spacing "s.wide" "wide" "{Gap XL} * 2", .spacing "s.odd" "odd" "{a)+(b} * 2"]
    (by decide)

theorem lookUp_reads_name_scaled :
    Calc.isExpression "var(--gap-xl) * 2" = true ∧
      Calc.isExpression "var(--a)+(b) * 2" = false ∧
      outcome scaled ((scaled.substitution .customProperties none).value false
        (.spacing "s.wide" "wide" "{Gap XL} * 2")) = .ok "calc(var(--gap-xl) * 2)" ∧
      outcome scaled ((scaled.substitution .customProperties none).value false
        (.spacing "s.odd" "odd" "{a)+(b} * 2")) = .ok "var(--a)+(b) * 2" := by
  obtain ⟨-, plain, plainValue⟩ := lookUp_reads_name "Gap XL" (by simp)
  obtain ⟨-, odd, oddValue⟩ := lookUp_reads_name "a)+(b" (by simp)
  have made : MakesVariable "Gap XL" := by decide
  have notMade : ¬ MakesVariable "a)+(b" := by decide
  have wideCall : variableCall "Gap XL" = "var(--gap-xl)" := by decide +kernel
  have oddCall : variableCall "a)+(b" = "var(--a)+(b)" := by decide +kernel
  refine ⟨?_, ?_, ?_, ?_⟩
  · have accepted := plain.1 made
    rwa [wideCall] at accepted
  · have refused := mt odd.2 notMade
    rw [oddCall] at refused
    exact Bool.eq_false_iff.2 refused
  · have computed := plainValue scaled none (.spacing "s.wide" "wide" "{Gap XL} * 2") (by decide)
      (by decide) ⟨by decide, by decide, by decide⟩ (by decide +kernel) false
    rw [if_pos made, wideCall] at computed
    exact computed.trans (congrArg Except.ok (by decide))
  · have computed := oddValue scaled none (.spacing "s.odd" "odd" "{a)+(b} * 2") (by decide)
      (by decide) ⟨by decide, by decide, by decide⟩ (by decide +kernel) false
    rw [if_neg notMade, oddCall] at computed
    exact computed.trans (congrArg Except.ok (by decide))

end DesignTokens
