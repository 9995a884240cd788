import DesignTokens.Proofs.Calc.Language

/-!
# One tree for each text

The grammar of arithmetic expressions is unambiguous: two trees of one text are one tree
(`written_injective`). So what is said about the products and the divisors of a text does not depend
on how the text was derived.

Trees lean to the left, so the tokens are compared from the right. The last operand is found at the
end whatever stands in front of it (`eq_of_tokens_operand`). A level starts behind an opening
parenthesis, and not behind a blank as an operand after an operator does
(`eq_of_tokens_expression`).
-/

namespace DesignTokens.Calc

/-! ## Leaves -/

theorem Numeral.written_injective {value value' : Numeral} (same : value.written = value'.written) :
    value = value' := by
  have unsigned (number : Numeral) (rest : List Char) : number.magnitude ≠ '-' :: rest := by
    intro front
    have chars := number.isMagnitude.numberChars '-' (front ▸ List.mem_cons_self)
    exact absurd chars (by decide)
  obtain ⟨negative, magnitude, isMagnitude⟩ := value
  obtain ⟨negative', magnitude', isMagnitude'⟩ := value'
  cases negative <;> cases negative' <;> dsimp [Numeral.written] at same
  case false.false => cases same; rfl
  case true.true => cases same; rfl
  case false.true => exact absurd same (unsigned ⟨false, magnitude, isMagnitude⟩ _)
  case true.false => exact absurd same.symm (unsigned ⟨false, magnitude', isMagnitude'⟩ _)

theorem UnitName.letters_injective {unit unit' : UnitName} (same : unit.letters = unit'.letters) :
    unit = unit' := by
  cases unit
  cases same
  rfl

theorem VariableName.call_injective {name name' : VariableName} (same : name.call = name'.call) :
    name = name' := by
  have chars : name.chars = name'.chars := List.append_cancel_left (List.append_cancel_right same)
  cases name
  cases chars
  rfl

theorem opener_injective {named named' : Bool} (same : opener named = opener named') :
    named = named' := by
  cases named <;> cases named' <;> first | rfl | exact absurd same (by decide)

theorem BinaryOperator.char_injective {operator operator' : BinaryOperator}
    (same : operator.char = operator'.char) : operator = operator' := by
  cases operator <;> cases operator' <;> first | rfl | exact absurd same (by decide)

/-! ## Trees -/

/-- The last token of an operand has the operand's last kind. -/
theorem Operand.exists_concat (o : Operand) (pos : Nat) :
    ∃ others last, o.tokens pos = others ++ [last] ∧ last.kind = o.lastKind := by
  cases o with
  | number value unit =>
    cases unit with
    | none => exact ⟨[], _, rfl, rfl⟩
    | some unit => exact ⟨[_], _, rfl, rfl⟩
  | lookup name => exact ⟨[], _, rfl, rfl⟩
  | group named inner => exact ⟨_, _, rfl, rfl⟩

/-- Operands that end one list of tokens have one last kind. -/
theorem Operand.lastKind_eq_of_tokens {o o' : Operand} {front front' : List Token} {pos pos' : Nat}
    (same : front ++ o.tokens pos = front' ++ o'.tokens pos') : o.lastKind = o'.lastKind := by
  obtain ⟨others, last, tokens, kind⟩ := o.exists_concat pos
  obtain ⟨others', last', tokens', kind'⟩ := o'.exists_concat pos'
  rw [tokens, tokens', ← List.append_assoc, ← List.append_assoc] at same
  rw [← kind, ← kind', List.cons.inj (List.append_inj' same rfl).2 |>.1]

/-- The blanks around an operator, and the operator. -/
def BinaryOperator.tokens (operator : BinaryOperator) (pos : Nat) : List Token :=
  [⟨.blank, [' '], pos⟩, ⟨.operator, [operator.char], ↑(pos + 1)⟩, ⟨.blank, [' '], ↑(pos + 2)⟩]

theorem Expression.tokens_binary (left : Expression) (operator : BinaryOperator) (right : Operand)
    (pos : Nat) :
    (Expression.binary left operator right).tokens pos =
      left.tokens pos ++ operator.tokens (pos + left.written.length) ++
        right.tokens (pos + left.written.length + 3) := by
  rw [Expression.tokens, List.append_assoc]
  rfl

/-- Tokens that a level may stand behind. -/
def StartsLevel (front : List Token) : Prop :=
  ∀ token ∈ front.getLast?, token.kind ≠ .blank

theorem startsLevel_opening (front : List Token) (text : List Char) (pos : Int) :
    StartsLevel (front ++ [⟨.opening, text, pos⟩]) := by
  intro token last
  rw [List.getLast?_concat] at last
  cases last
  exact nofun

/-- No level starts behind an operator and its blanks. -/
theorem not_startsLevel (front : List Token) (operator : BinaryOperator) (pos : Nat) :
    ¬ StartsLevel (front ++ operator.tokens pos) := by
  intro starts
  refine starts ⟨.blank, [' '], ↑(pos + 2)⟩ ?_ rfl
  rw [BinaryOperator.tokens, List.getLast?_append]
  rfl

mutual
/-- An operand is known by the tokens at the end. -/
theorem eq_of_tokens_operand (o : Operand) {o' : Operand} {front front' : List Token}
    {pos pos' : Nat} (same : front ++ o.tokens pos = front' ++ o'.tokens pos') :
    o = o' ∧ front = front' := by
  have kinds := Operand.lastKind_eq_of_tokens same
  match o, o' with
  | .number value none, .number value' none =>
    obtain ⟨fronts, tokens⟩ := List.append_inj' same rfl
    obtain ⟨token, -⟩ := List.cons.inj tokens
    rw [Numeral.written_injective (Token.mk.inj token).2.1]
    exact ⟨rfl, fronts⟩
  | .number value (some unit), .number value' (some unit') =>
    obtain ⟨fronts, tokens⟩ := List.append_inj' same rfl
    obtain ⟨token, tokens⟩ := List.cons.inj tokens
    obtain ⟨unitToken, -⟩ := List.cons.inj tokens
    rw [Numeral.written_injective (Token.mk.inj token).2.1,
      UnitName.letters_injective (Token.mk.inj unitToken).2.1]
    exact ⟨rfl, fronts⟩
  | .lookup name, .lookup name' =>
    obtain ⟨fronts, tokens⟩ := List.append_inj' same rfl
    obtain ⟨token, -⟩ := List.cons.inj tokens
    rw [VariableName.call_injective (Token.mk.inj token).2.1]
    exact ⟨rfl, fronts⟩
  | .group named inner, .group named' inner' =>
    simp only [Operand.tokens, ← List.append_assoc] at same
    obtain ⟨same, -⟩ := List.append_inj' same rfl
    rw [List.append_cons, List.append_cons front'] at same
    obtain ⟨inners, openers⟩ := eq_of_tokens_expression inner (startsLevel_opening _ _ _)
      (startsLevel_opening _ _ _) same
    obtain ⟨fronts, tokens⟩ := List.append_inj' openers rfl
    obtain ⟨token, -⟩ := List.cons.inj tokens
    rw [inners, opener_injective (Token.mk.inj token).2.1]
    exact ⟨rfl, fronts⟩

/-- A level is known by the tokens at the end, up to where it starts. -/
theorem eq_of_tokens_expression (e : Expression) {e' : Expression} {front front' : List Token}
    {pos pos' : Nat} (starts : StartsLevel front) (starts' : StartsLevel front')
    (same : front ++ e.tokens pos = front' ++ e'.tokens pos') : e = e' ∧ front = front' := by
  match e, e' with
  | .operand only, .operand only' =>
    obtain ⟨operands, fronts⟩ := eq_of_tokens_operand only same
    exact ⟨congrArg Expression.operand operands, fronts⟩
  | .operand only, .binary left' operator' right' =>
    rw [Expression.tokens_binary, ← List.append_assoc, ← List.append_assoc] at same
    obtain ⟨-, fronts⟩ := eq_of_tokens_operand only same
    exact absurd (fronts ▸ starts) (not_startsLevel _ _ _)
  | .binary left operator right, .operand only' =>
    rw [Expression.tokens_binary, ← List.append_assoc, ← List.append_assoc] at same
    obtain ⟨-, fronts⟩ := eq_of_tokens_operand right same
    exact absurd (fronts ▸ starts') (not_startsLevel _ _ _)
  | .binary left operator right, .binary left' operator' right' =>
    simp only [Expression.tokens_binary, ← List.append_assoc] at same
    obtain ⟨rights, same⟩ := eq_of_tokens_operand right same
    obtain ⟨same, tokens⟩ := List.append_inj' same rfl
    obtain ⟨-, tokens⟩ := List.cons.inj tokens
    obtain ⟨token, -⟩ := List.cons.inj tokens
    have operators : operator = operator' :=
      BinaryOperator.char_injective (List.cons.inj (Token.mk.inj token).2.1).1
    obtain ⟨lefts, fronts⟩ := eq_of_tokens_expression left starts starts' same
    rw [lefts, operators, rights]
    exact ⟨rfl, fronts⟩
end

/-- The grammar is unambiguous. -/
theorem written_injective : Function.Injective Expression.written := by
  intro e e' same
  have scanned := scan_written e
  rw [same, scan_written e'] at scanned
  have tokens : [] ++ e.tokens 0 = [] ++ e'.tokens 0 := (Except.ok.inj scanned).symm
  have starts : StartsLevel [] := nofun
  exact (eq_of_tokens_expression e starts starts tokens).1

end DesignTokens.Calc
