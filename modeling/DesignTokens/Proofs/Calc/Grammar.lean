import DesignTokens.Calc.Token

/-!
# The grammar of arithmetic expressions

An `Expression` is a derivation tree of the grammar

* `E ::= O (" " op " " O)*`, where `op` is one of `+ - * /`;
* `O ::= N U? | "var(--" name ")" | ("(" or "calc(") E ")"`;
* `N ::= "-"? (digits or digits? "." digits)`;
* `U`: letters and percent signs that do not start with `var`.

The operands of one pair of parentheses, or of the whole text, are a level. The tree leans to the
left, so the operand that was written last is at its top.

`Expression.written` is the text of a tree. `Expression.Admissible` says what the grammar leaves
open: a product has one unit at most, and a divisor has neither a unit nor the spelling `0`.
-/

namespace DesignTokens.Calc

/-! ## Leaves -/

/-- The digits of a number, with at most one point that has a digit behind it. -/
inductive IsMagnitude : List Char → Prop
  | whole {digits : List Char} :
      digits ≠ [] → (∀ c ∈ digits, isDigit c) → IsMagnitude digits
  | fraction {front digits : List Char} :
      (∀ c ∈ front, isDigit c) → digits ≠ [] → (∀ c ∈ digits, isDigit c) →
      IsMagnitude (front ++ '.' :: digits)

/-- A number with its sign. -/
structure Numeral where
  negative : Bool
  magnitude : List Char
  isMagnitude : IsMagnitude magnitude

def Numeral.written (number : Numeral) : List Char :=
  if number.negative then '-' :: number.magnitude else number.magnitude

/-- A unit. What starts as a variable does is none. -/
structure UnitName where
  letters : List Char
  nonempty : letters ≠ []
  isWord : ∀ c ∈ letters, isWordChar c
  notVariable : ¬ ['v', 'a', 'r'] <+: letters

/-- The name of a variable behind its two hyphens. -/
structure VariableName where
  chars : List Char
  nonempty : chars ≠ []
  isName : ∀ c ∈ chars, isNameChar c

/-- A look-up of the variable. -/
def VariableName.call (name : VariableName) : List Char :=
  ['v', 'a', 'r', '(', '-', '-'] ++ name.chars ++ [')']

/-- The operators of the grammar. -/
inductive BinaryOperator where
  | plus
  | minus
  | times
  | divide
  deriving DecidableEq

namespace BinaryOperator

def char : BinaryOperator → Char
  | .plus => '+'
  | .minus => '-'
  | .times => '*'
  | .divide => '/'

/-- Whether a new product starts after the operator. -/
def isAdditive : BinaryOperator → Bool
  | .plus | .minus => true
  | .times | .divide => false

end BinaryOperator

/-! ## Trees -/

mutual
/-- An operand. A group is in parentheses, with or without `calc` in front of them. -/
inductive Operand where
  | number (value : Numeral) (unit : Option UnitName)
  | lookup (name : VariableName)
  | group (named : Bool) (inner : Expression)

/-- Operands with operators between them. -/
inductive Expression where
  | operand (only : Operand)
  | binary (left : Expression) (operator : BinaryOperator) (right : Operand)
end

/-- What opens a group. -/
def opener (named : Bool) : List Char :=
  if named then ['c', 'a', 'l', 'c', '('] else ['(']

/-- The letters of a unit that may be missing. -/
def unitLetters : Option UnitName → List Char
  | none => []
  | some unit => unit.letters

mutual
def Operand.written : Operand → List Char
  | .number value unit => value.written ++ unitLetters unit
  | .lookup name => name.call
  | .group named inner => opener named ++ inner.written ++ [')']

def Expression.written : Expression → List Char
  | .operand only => only.written
  | .binary left operator right => left.written ++ [' ', operator.char, ' '] ++ right.written
end

namespace Operand

/-- Whether the operand is a number with a unit. -/
def isDimension : Operand → Bool
  | .number _ (some _) => true
  | _ => false

/-- Whether the number of the operand is spelled `0`. -/
def isZero : Operand → Bool
  | .number value _ => value.written == ['0']
  | _ => false

end Operand

namespace Expression

/-- The operands of a level, cut at every plus and minus. The latest product comes first, and the
latest operand comes first in it. -/
def products : Expression → List (List Operand)
  | .operand only => [[only]]
  | .binary left operator right =>
    if operator.isAdditive then [right] :: left.products
    else
      match left.products with
      | product :: earlier => (right :: product) :: earlier
      | [] => [[right]]

/-- The operands of a level that directly follow a `/`. -/
def divisors : Expression → List Operand
  | .operand _ => []
  | .binary left operator right =>
    if operator = .divide then right :: left.divisors else left.divisors

/-- What the level at the top of a tree has to obey. -/
structure LevelAdmissible (e : Expression) : Prop where
  oneDimension : ∀ product ∈ e.products, product.countP Operand.isDimension ≤ 1
  noDimension : ∀ divisor ∈ e.divisors, divisor.isDimension = false
  noZero : ∀ divisor ∈ e.divisors, divisor.isZero = false

end Expression

mutual
/-- The levels inside an operand. -/
def Operand.levels : Operand → List Expression
  | .group _ inner => inner :: inner.innerLevels
  | _ => []

/-- The levels inside the operands of a level. -/
def Expression.innerLevels : Expression → List Expression
  | .operand only => only.levels
  | .binary left _ right => left.innerLevels ++ right.levels
end

namespace Expression

/-- Every level of a tree. -/
def levels (e : Expression) : List Expression :=
  e :: e.innerLevels

/-- Every level obeys the rules about units and divisors. -/
def Admissible (e : Expression) : Prop :=
  ∀ level ∈ e.levels, level.LevelAdmissible

end Expression

/-- Every level inside an operand obeys them. -/
def Operand.Admissible (o : Operand) : Prop :=
  ∀ level ∈ o.levels, level.LevelAdmissible

theorem Operand.admissible_of_levels_eq_nil {o : Operand} (flat : o.levels = []) :
    o.Admissible := by
  intro level there
  rw [flat] at there
  exact absurd there List.not_mem_nil

namespace Expression

/-- Whether a level has an operator. -/
def isBinary : Expression → Bool
  | .operand _ => false
  | .binary .. => true

/-- Whether there is an operator at some level. -/
def hasOperator (e : Expression) : Bool :=
  e.levels.any isBinary

/-! ## From left to right

What a reader has to remember of the operands to the left of the next one. -/

/-- Whether the latest product has a unit. -/
def carriesUnit (e : Expression) : Bool :=
  (e.products.headD []).any Operand.isDimension

/-- The latest operator of the level at the top. -/
def latest : Expression → Option BinaryOperator
  | .operand _ => none
  | .binary _ operator _ => some operator

/-- An operand that may follow an operator behind an expression. -/
structure Fits (left : Expression) (operator : BinaryOperator) (right : Operand) : Prop where
  dimension : right.isDimension → operator.isAdditive ∨ left.carriesUnit = false
  divisor : operator = .divide → right.isDimension = false ∧ right.isZero = false

theorem products_ne_nil (e : Expression) : e.products ≠ [] := by
  cases e with
  | operand only => simp [products]
  | binary left operator right =>
    unfold products
    split
    · simp
    · split <;> simp

theorem carriesUnit_operand (only : Operand) :
    (Expression.operand only).carriesUnit = only.isDimension := by
  simp [carriesUnit, products]

theorem carriesUnit_binary (left : Expression) (operator : BinaryOperator) (right : Operand) :
    (Expression.binary left operator right).carriesUnit =
      (right.isDimension || left.carriesUnit && !operator.isAdditive) := by
  obtain ⟨product, earlier, found⟩ := List.exists_cons_of_ne_nil left.products_ne_nil
  cases h : operator.isAdditive <;> simp [carriesUnit, products, found, h]

theorem levelAdmissible_operand (only : Operand) :
    (Expression.operand only).LevelAdmissible := by
  refine ⟨?_, by simp [divisors], by simp [divisors]⟩
  intro product member
  rw [products, List.mem_singleton] at member
  subst member
  exact List.countP_le_length

/-- One more operand leaves one dimension at most exactly when it is the first one. -/
theorem countP_cons_le_one {right : Operand} {product : List Operand} :
    (right :: product).countP Operand.isDimension ≤ 1 ↔
      product.countP Operand.isDimension ≤ 1 ∧
        (right.isDimension → product.any Operand.isDimension = false) := by
  cases h : right.isDimension with
  | false => simp [h]
  | true =>
    have first : product.any Operand.isDimension = false ↔
        product.countP Operand.isDimension = 0 := by
      simp [List.countP_eq_zero]
    rw [List.countP_cons_of_pos h, first]
    constructor
    · intro few
      exact ⟨by omega, fun _ => by omega⟩
    · rintro ⟨_, none⟩
      have := none rfl
      omega

theorem oneDimension_binary {left : Expression} {operator : BinaryOperator} {right : Operand} :
    (∀ product ∈ (Expression.binary left operator right).products,
        product.countP Operand.isDimension ≤ 1) ↔
      (∀ product ∈ left.products, product.countP Operand.isDimension ≤ 1) ∧
        (right.isDimension → operator.isAdditive ∨ left.carriesUnit = false) := by
  obtain ⟨product, earlier, found⟩ := List.exists_cons_of_ne_nil left.products_ne_nil
  have carried : left.carriesUnit = product.any Operand.isDimension := by
    rw [carriesUnit, found, List.headD_cons]
  cases additive : operator.isAdditive with
  | true =>
    have alone : [right].countP Operand.isDimension ≤ 1 := List.countP_le_length
    rw [products, if_pos additive, List.forall_mem_cons]
    exact ⟨fun ⟨_, others⟩ => ⟨others, fun _ => .inl rfl⟩, fun ⟨others, _⟩ => ⟨alone, others⟩⟩
  | false =>
    rw [carried]
    simp only [products, additive, found, Bool.false_eq_true, if_false, false_or,
      List.forall_mem_cons, countP_cons_le_one]
    constructor
    · rintro ⟨⟨one, first⟩, others⟩
      exact ⟨⟨one, others⟩, first⟩
    · rintro ⟨⟨one, others⟩, first⟩
      exact ⟨⟨one, first⟩, others⟩

theorem divisors_binary {left : Expression} {operator : BinaryOperator} {right : Operand}
    {p : Operand → Prop} :
    (∀ divisor ∈ (Expression.binary left operator right).divisors, p divisor) ↔
      (∀ divisor ∈ left.divisors, p divisor) ∧ (operator = .divide → p right) := by
  rw [divisors.eq_def (.binary left operator right)]
  dsimp only
  split
  · next same =>
    rw [List.forall_mem_cons]
    exact ⟨fun ⟨here, others⟩ => ⟨others, fun _ => here⟩, fun ⟨others, here⟩ => ⟨here same, others⟩⟩
  · next other =>
    exact ⟨fun others => ⟨others, fun same => absurd same other⟩, And.left⟩

/-- One more operand keeps the rules of a level exactly when it fits. -/
theorem levelAdmissible_binary {left : Expression} {operator : BinaryOperator} {right : Operand} :
    (Expression.binary left operator right).LevelAdmissible ↔
      left.LevelAdmissible ∧ Fits left operator right := by
  constructor
  · rintro ⟨one, noDimension, noZero⟩
    obtain ⟨one, dimension⟩ := oneDimension_binary.mp one
    obtain ⟨noDimension, noDimensionHere⟩ := divisors_binary.mp noDimension
    obtain ⟨noZero, noZeroHere⟩ := divisors_binary.mp noZero
    exact ⟨⟨one, noDimension, noZero⟩, dimension,
      fun divide => ⟨noDimensionHere divide, noZeroHere divide⟩⟩
  · rintro ⟨⟨one, noDimension, noZero⟩, dimension, divisor⟩
    exact ⟨oneDimension_binary.mpr ⟨one, dimension⟩,
      divisors_binary.mpr ⟨noDimension, fun divide => (divisor divide).1⟩,
      divisors_binary.mpr ⟨noZero, fun divide => (divisor divide).2⟩⟩

theorem admissible_operand {only : Operand} :
    (Expression.operand only).Admissible ↔ only.Admissible := by
  unfold Admissible levels
  rw [innerLevels, List.forall_mem_cons]
  exact ⟨And.right, fun inside => ⟨levelAdmissible_operand only, inside⟩⟩

theorem admissible_binary {left : Expression} {operator : BinaryOperator} {right : Operand} :
    (Expression.binary left operator right).Admissible ↔
      left.Admissible ∧ right.Admissible ∧ Fits left operator right := by
  unfold Admissible levels
  rw [innerLevels, List.forall_mem_cons, List.forall_mem_cons, List.forall_mem_append,
    levelAdmissible_binary]
  constructor
  · rintro ⟨⟨top, fits⟩, inLeft, inRight⟩
    exact ⟨⟨top, inLeft⟩, inRight, fits⟩
  · rintro ⟨⟨top, inLeft⟩, inRight, fits⟩
    exact ⟨⟨top, fits⟩, inLeft, inRight⟩

end Expression

end DesignTokens.Calc
