import DesignTokens.Proofs.Calc.Language
import DesignTokens.Proofs.Calc.Seams
import DesignTokens.Proofs.Text

/-!
# Expressions in the place of variables

A look-up in an expression may be replaced by any operand without a unit that is not spelled `0`,
such as a group (`Expression.Grafted.admissible`). The text of the new tree is the old one with the
span of the look-up replaced (`Expression.exists_grafted`), so an expression stays one when a
variable in it is expanded to an expression inside `calc(...)` (`isExpression_replaceIn`).
-/

namespace DesignTokens.Calc

/-! ## Trees -/

mutual
/-- In the second operand `new` stands in the place of a look-up of the first one. -/
inductive Operand.Grafted (new : Operand) : Operand → Operand → Prop
  | lookup (name : VariableName) : Operand.Grafted new (.lookup name) new
  | group {inner inner' : Expression} (named : Bool) : Expression.Grafted new inner inner' →
      Operand.Grafted new (.group named inner) (.group named inner')

/-- In the second expression `new` stands in the place of a look-up of the first one. -/
inductive Expression.Grafted (new : Operand) : Expression → Expression → Prop
  | operand {only only' : Operand} : Operand.Grafted new only only' →
      Expression.Grafted new (.operand only) (.operand only')
  | left {left left' : Expression} (operator : BinaryOperator) (right : Operand) :
      Expression.Grafted new left left' →
      Expression.Grafted new (.binary left operator right) (.binary left' operator right)
  | right {right right' : Operand} (left : Expression) (operator : BinaryOperator) :
      Operand.Grafted new right right' →
      Expression.Grafted new (.binary left operator right) (.binary left operator right')
end

/-- The operand obeys the rules, and so do products and divisors that it takes part in. -/
structure Operand.Neutral (o : Operand) : Prop where
  dimension : o.isDimension = false
  zero : o.isZero = false
  admissible : o.Admissible

theorem neutral_group {named : Bool} {inner : Expression} (admissible : inner.Admissible) :
    (Operand.group named inner).Neutral :=
  ⟨rfl, rfl, admissible⟩

section Grafted

variable {new o o' : Operand} {e e' : Expression}

theorem Operand.Grafted.isDimension_eq (grafted : Operand.Grafted new o o') (neutral : new.Neutral) :
    o'.isDimension = o.isDimension := by
  cases grafted with
  | lookup name => exact neutral.dimension
  | group named inside => rfl

theorem Operand.Grafted.isZero_eq (grafted : Operand.Grafted new o o') (neutral : new.Neutral) :
    o'.isZero = o.isZero := by
  cases grafted with
  | lookup name => exact neutral.zero
  | group named inside => rfl

theorem Expression.Grafted.carriesUnit_eq (neutral : new.Neutral) :
    {e e' : Expression} → Expression.Grafted new e e' → e'.carriesUnit = e.carriesUnit
  | _, _, .operand only => by
    rw [carriesUnit_operand, carriesUnit_operand, only.isDimension_eq neutral]
  | _, _, .left operator last inside => by
    rw [carriesUnit_binary, carriesUnit_binary, carriesUnit_eq neutral inside]
  | _, _, .right front operator last => by
    rw [carriesUnit_binary, carriesUnit_binary, last.isDimension_eq neutral]

mutual
theorem Operand.Grafted.admissible (neutral : new.Neutral) :
    {o o' : Operand} → Operand.Grafted new o o' → o.Admissible → o'.Admissible
  | _, _, .lookup name, _ => neutral.admissible
  | _, _, .group named inside, admissible => Expression.Grafted.admissible neutral inside admissible

/-- The rules about units and divisors are kept. -/
theorem Expression.Grafted.admissible (neutral : new.Neutral) :
    {e e' : Expression} → Expression.Grafted new e e' → e.Admissible → e'.Admissible
  | _, _, .operand only, admissible => by
    have inside := Operand.Grafted.admissible neutral only
    exact Expression.admissible_operand.mpr (inside (Expression.admissible_operand.mp admissible))
  | _, _, .left operator right inside, admissible => by
    obtain ⟨inLeft, inRight, dimension, divisor⟩ := Expression.admissible_binary.mp admissible
    have inLeft := Expression.Grafted.admissible neutral inside inLeft
    rw [← inside.carriesUnit_eq neutral] at dimension
    exact Expression.admissible_binary.mpr ⟨inLeft, inRight, dimension, divisor⟩
  | _, _, .right left operator last, admissible => by
    obtain ⟨inLeft, inRight, dimension, divisor⟩ := Expression.admissible_binary.mp admissible
    have inRight := Operand.Grafted.admissible neutral last inRight
    rw [← last.isDimension_eq neutral] at dimension divisor
    rw [← last.isZero_eq neutral] at divisor
    exact Expression.admissible_binary.mpr ⟨inLeft, inRight, dimension, divisor⟩
end

mutual
theorem Operand.Grafted.hasOperator :
    {o o' : Operand} → Operand.Grafted new o o' → o.hasOperator → o'.hasOperator
  | _, _, .lookup name, operator => nomatch operator
  | _, _, .group named inside, operator => Expression.Grafted.hasOperator inside operator

/-- Operators are kept. -/
theorem Expression.Grafted.hasOperator :
    {e e' : Expression} → Expression.Grafted new e e' → e.hasOperator → e'.hasOperator
  | _, _, .operand only, operator => by
    rw [Expression.hasOperator_operand] at operator ⊢
    exact Operand.Grafted.hasOperator only operator
  | _, _, .left .., _ | _, _, .right .., _ => Expression.hasOperator_binary ..
end

end Grafted

/-! ## Texts of trees -/

theorem ne_lookUp {kind : Kind} {text : List Char} {pos : Int} {token : Token}
    (other : kind ≠ .customProperty) (lookUp : token.kind = .customProperty) :
    (⟨kind, text, pos⟩ : Token) ≠ token := by
  rintro rfl
  exact other lookUp

mutual
theorem Operand.exists_grafted (new : Operand) {front behind : List Token} {token : Token}
    (lookUp : token.kind = .customProperty) : (o : Operand) → (pos : Nat) →
    o.tokens pos = front ++ token :: behind → ∃ o', Operand.Grafted new o o' ∧
      o'.written = front.flatMap (·.text) ++ new.written ++ behind.flatMap (·.text)
  | .number value unit, pos, tokens => by
    have none : ∀ other ∈ (Operand.number value unit).tokens pos, other.kind ≠ .customProperty := by
      cases unit <;> simp [Operand.tokens]
    exact absurd lookUp (none token (by simp [tokens]))
  | .lookup name, pos, tokens => by
    refine ⟨new, .lookup name, ?_⟩
    cases front with
    | nil => obtain ⟨-, rfl⟩ := List.cons.inj tokens; simp
    | cons first front => simp [Operand.tokens] at tokens
  | .group named inner, pos, tokens => by
    rw [Operand.tokens, List.cons_append] at tokens
    obtain ⟨front, rfl, others⟩ := Text.exists_front_of_ne (ne_lookUp (by decide) lookUp) tokens
    rcases Text.append_eq_append_cons others with ⟨middle, inside, rfl⟩ | ⟨middle, rfl, closing⟩
    · obtain ⟨inner', grafted, written⟩ := Expression.exists_grafted new lookUp inner _ inside
      refine ⟨.group named inner', .group named grafted, ?_⟩
      simp [Operand.written, written, List.flatMap_append]
    · obtain ⟨_, -, none⟩ := Text.exists_front_of_ne (ne_lookUp (by decide) lookUp) closing
      simp at none

/-- The text of a tree with an operand in the place of a look-up is the text of the tree with the
span of the look-up replaced. -/
theorem Expression.exists_grafted (new : Operand) {front behind : List Token} {token : Token}
    (lookUp : token.kind = .customProperty) : (e : Expression) → (pos : Nat) →
    e.tokens pos = front ++ token :: behind → ∃ e', Expression.Grafted new e e' ∧
      e'.written = front.flatMap (·.text) ++ new.written ++ behind.flatMap (·.text)
  | .operand only, pos, tokens => by
    obtain ⟨only', grafted, written⟩ := Operand.exists_grafted new lookUp only pos tokens
    exact ⟨.operand only', .operand grafted, written⟩
  | .binary left operator right, pos, tokens => by
    rw [Expression.tokens] at tokens
    rcases Text.append_eq_append_cons tokens with ⟨middle, inside, rfl⟩ | ⟨middle, rfl, others⟩
    · obtain ⟨left', grafted, written⟩ := Expression.exists_grafted new lookUp left _ inside
      refine ⟨.binary left' operator right, .left operator right grafted, ?_⟩
      simp [Expression.written, written, List.flatMap_append, right.flatMap_tokens]
    · -- The look-up is behind the operator and its two blanks.
      obtain ⟨_, rfl, fromSign⟩ := Text.exists_front_of_ne (ne_lookUp (by decide) lookUp) others
      obtain ⟨_, rfl, fromBlank⟩ := Text.exists_front_of_ne (ne_lookUp (by decide) lookUp) fromSign
      obtain ⟨middle, rfl, inside⟩ :=
        Text.exists_front_of_ne (ne_lookUp (by decide) lookUp) fromBlank
      obtain ⟨right', grafted, written⟩ := Operand.exists_grafted new lookUp right _ inside
      refine ⟨.binary left operator right', .right left operator grafted, ?_⟩
      simp [Expression.written, written, List.flatMap_append, left.flatMap_tokens]
end

/-! ## Texts -/

/-- A text with another one in the place of a token of it. -/
def Token.replaceIn (token : Token) (text new : String) : String :=
  let pos := token.pos.toNat
  String.ofList (text.toList.take pos ++ new.toList ++ text.toList.drop (pos + token.text.length))

/-- An expression stays one when a variable in it is replaced by an expression inside `calc`. -/
theorem isExpression_of_graft {text inner new : String} {front behind : List Token} {token : Token}
    (accepted : isExpression text) (isInner : isExpression inner)
    (tokens : scan text.toList = .ok (front ++ token :: behind))
    (lookUp : token.kind = .customProperty)
    (written : new.toList = front.flatMap (·.text) ++ ("calc(" ++ inner ++ ")").toList ++
      behind.flatMap (·.text)) : isExpression new := by
  obtain ⟨e, spelled, admissible, operator⟩ := exists_expression_of_isExpression accepted
  obtain ⟨i, inside, isAdmissible, -⟩ := exists_expression_of_isExpression isInner
  rw [← spelled, scan_written] at tokens
  obtain ⟨e', grafted, whole⟩ :=
    Expression.exists_grafted (.group true i) lookUp e 0 (Except.ok.inj tokens)
  have admissible := Expression.Grafted.admissible (neutral_group isAdmissible) grafted admissible
  refine isExpression_of_expression ?_ admissible (Expression.Grafted.hasOperator grafted operator)
  have opening : ("calc(" : String).toList = ['c', 'a', 'l', 'c', '('] := rfl
  have closing : (")" : String).toList = [')'] := rfl
  rw [whole, written]
  simp [Operand.written, inside, opener, opening, closing]

/-- Every variable of an expression may be replaced by an expression inside `calc`. -/
theorem isExpression_replaceIn {text inner : String} (accepted : isExpression text)
    (isInner : isExpression inner) : ∃ tokens, scan text.toList = .ok tokens ∧
      ∀ token ∈ tokens, token.kind = .customProperty →
        isExpression (token.replaceIn text ("calc(" ++ inner ++ ")")) := by
  obtain ⟨e, spelled, -⟩ := exists_expression_of_isExpression accepted
  have scanned : scan text.toList = .ok (e.tokens 0) := spelled ▸ scan_written e
  obtain ⟨whole, tiles, -⟩ := scanAt_eq_ok_iff.mp scanned
  refine ⟨e.tokens 0, scanned, fun token there lookUp => ?_⟩
  obtain ⟨front, behind, cut⟩ := List.append_of_mem there
  have place : token.pos.toNat = (front.flatMap (·.text)).length := by
    rw [tiles front token behind cut, Int.toNat_natCast, Nat.zero_add]
  rw [cut] at scanned whole
  refine isExpression_of_graft accepted isInner scanned lookUp ?_
  rw [Token.replaceIn, String.toList_ofList, place, ← whole, List.flatMap_append, List.flatMap_cons,
    List.take_left, ← List.length_append, ← List.append_assoc (front.flatMap _), List.drop_left]

/-! ## Look-ups in a text -/

theorem scanAt_hyphens {pos : Nat} {rest : List Char} {tokens : List Token} :
    scanAt pos ('-' :: '-' :: rest) ≠ .ok tokens := by
  intro cut
  rw [scanAt] at cut
  cases cut

/-- A look-up in a text that is cut into tokens is one of the tokens. -/
theorem exists_variable {front key behind : List Char} {tokens : List Token}
    (scanned : scan (front ++ ['v', 'a', 'r', '(', '-', '-'] ++ key ++ ')' :: behind) = .ok tokens)
    (plain : ')' ∉ key) : ∃ before token after, tokens = before ++ token :: after ∧
      token.kind = .customProperty ∧ before.flatMap (·.text) = front ∧
      after.flatMap (·.text) = behind := by
  obtain ⟨whole, scanned⟩ := scanAt_eq_ok_iff.mp scanned
  have cut : tokens.flatMap (·.text) =
      (front ++ ['v', 'a', 'r']) ++ '(' :: ('-' :: '-' :: (key ++ ')' :: behind)) := by
    simp [whole]
  obtain ⟨before, token, after, first, last, rfl, text, fronts, behinds⟩ := exists_token_of_char cut
  have spelled := scanned.spelled token (by simp)
  rw [text] at spelled
  rcases spelled.of_opening_mem _ with ⟨-, rfl⟩ | ⟨lookUp, rfl, name, rfl⟩
  · -- Behind a parenthesis that opens a group the two hyphens would be refused.
    rw [List.append_cons] at scanned
    exact absurd (scanAt_eq_ok_iff.mpr ⟨behinds, scanned.behind⟩) scanAt_hyphens
  · refine ⟨before, token, after, rfl, lookUp, List.append_cancel_right fronts, ?_⟩
    have other : ')' ∉ name.chars := fun here => absurd (name.isName _ here) (by decide)
    exact (Text.eq_of_append_cons_eq other plain (by simpa using behinds)).2

/-- A look-up in an expression may be replaced by an expression inside `calc`. -/
theorem isExpression_of_lookUp {front key behind : List Char} {text inner new : String}
    (accepted : isExpression text) (isInner : isExpression inner) (plain : ')' ∉ key)
    (spelled : text.toList = front ++ ['v', 'a', 'r', '(', '-', '-'] ++ key ++ ')' :: behind)
    (written : new.toList = front ++ ("calc(" ++ inner ++ ")").toList ++ behind) :
    isExpression new := by
  obtain ⟨e, whole, -⟩ := exists_expression_of_isExpression accepted
  have scanned : scan text.toList = .ok (e.tokens 0) := whole ▸ scan_written e
  obtain ⟨before, token, after, tokens, lookUp, rfl, rfl⟩ :=
    exists_variable (spelled ▸ scanned) plain
  exact isExpression_of_graft accepted isInner (tokens ▸ scanned) lookUp written

end DesignTokens.Calc
