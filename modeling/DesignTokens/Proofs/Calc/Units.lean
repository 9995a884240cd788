import DesignTokens.Proofs.Calc.Uniqueness

/-!
# Units through parentheses

An operand bears a unit when it is a number with a unit or a group in which an operand bears one. A
reader of tokens looks at each level by itself and forgets the units of a group when the group is
closed. So among the factors of a product that bear a unit all but one are groups, and a divisor
that bears a unit is a group (`unit_gate_counts_numbers`). Where no group bears a unit, this is all
that can be asked for. Groups can hide any number of units, and a zero that is not spelled `0` is
not seen either (`units_hide_in_groups`).
-/

namespace DesignTokens.Calc

/-! ## Operands that bear units -/

mutual
/-- Whether the operand is a number with a unit, or a group with one inside. -/
def Operand.bearsUnit : Operand → Bool
  | .number _ unit => unit.isSome
  | .lookup _ => false
  | .group _ inner => inner.bearsUnit

/-- Whether there is an operand that bears a unit. -/
def Expression.bearsUnit : Expression → Bool
  | .operand only => only.bearsUnit
  | .binary left _ right => left.bearsUnit || right.bearsUnit
end

namespace Operand

def isGroup : Operand → Bool
  | .group .. => true
  | _ => false

/-- Whether the operand is a number whose digits are all zero. -/
def isNaught : Operand → Bool
  | .number value _ => value.magnitude.all fun c => c == '0' || c == '.'
  | _ => false

/-- A number with a unit is what bears a unit and is no group. -/
theorem isDimension_eq (o : Operand) : o.isDimension = (o.bearsUnit && !o.isGroup) := by
  cases o with
  | number value unit => cases unit <;> rfl
  | lookup name => rfl
  | group named inner => exact (Bool.and_false _).symm

end Operand

namespace Expression

theorem exists_products_binary (left : Expression) (operator : BinaryOperator) (right : Operand) :
    ∃ product earlier, left.products = product :: earlier ∧
      (left.binary operator right).products =
        if operator.isAdditive then [right] :: left.products
        else (right :: product) :: earlier := by
  obtain ⟨product, earlier, found⟩ := List.exists_cons_of_ne_nil left.products_ne_nil
  refine ⟨product, earlier, found, ?_⟩
  rw [products, found]

/-- The factors of the products are the operands of the level. -/
theorem exists_factor_binary {left : Expression} {operator : BinaryOperator} {right : Operand}
    {p : Operand → Prop} :
    (∃ product ∈ (left.binary operator right).products, ∃ factor ∈ product, p factor) ↔
      (∃ product ∈ left.products, ∃ factor ∈ product, p factor) ∨ p right := by
  obtain ⟨product, earlier, found, products⟩ := exists_products_binary left operator right
  rw [products, found]
  split
  · simp only [List.mem_cons, List.not_mem_nil, or_false, or_and_right, exists_or,
      exists_eq_left]
    exact or_comm
  · simp only [List.mem_cons, or_and_right, exists_or, exists_eq_left]
    rw [or_assoc]
    exact or_comm

/-- An expression bears a unit when a factor of one of its products does. -/
theorem bearsUnit_iff (e : Expression) : e.bearsUnit = true ↔
    ∃ product ∈ e.products, ∃ factor ∈ product, factor.bearsUnit = true := by
  cases e with
  | operand only => simp [bearsUnit, products]
  | binary left operator right =>
    rw [bearsUnit, Bool.or_eq_true, bearsUnit_iff left, exists_factor_binary]

/-- A divisor is a factor of a product. -/
theorem exists_product_of_divisor {divisor : Operand} : (e : Expression) →
    divisor ∈ e.divisors → ∃ product ∈ e.products, ∃ factor ∈ product, factor = divisor
  | .operand _, there => absurd there List.not_mem_nil
  | .binary left operator right, there => by
    rw [exists_factor_binary]
    rw [divisors] at there
    split at there
    · rcases List.mem_cons.mp there with same | earlier
      · exact .inr same.symm
      · exact .inl (exists_product_of_divisor left earlier)
    · exact .inl (exists_product_of_divisor left there)

/-! ## What is kept of each level -/

/-- What a reader of tokens makes sure of at a level. Groups are left out. -/
structure UnitGated (level : Expression) : Prop where
  oneNumber : ∀ product ∈ level.products,
    product.countP (fun factor => factor.bearsUnit && !factor.isGroup) ≤ 1
  groupDivides : ∀ divisor ∈ level.divisors, divisor.bearsUnit → divisor.isGroup
  noZero : ∀ divisor ∈ level.divisors, divisor.isZero = false

/-- What units through parentheses would ask of a level. -/
structure UnitSound (level : Expression) : Prop where
  oneUnit : ∀ product ∈ level.products, product.countP Operand.bearsUnit ≤ 1
  noUnit : ∀ divisor ∈ level.divisors, divisor.bearsUnit = false

/-- The rules of a level say of groups nothing at all. -/
theorem unitGated_iff (level : Expression) : level.UnitGated ↔ level.LevelAdmissible := by
  have same : (fun factor : Operand => factor.bearsUnit && !factor.isGroup) =
      Operand.isDimension :=
    funext fun factor => factor.isDimension_eq.symm
  have group (divisor : Operand) :
      (divisor.bearsUnit → divisor.isGroup) ↔ divisor.isDimension = false := by
    rw [divisor.isDimension_eq]
    cases divisor.bearsUnit <;> cases divisor.isGroup <;> decide
  constructor
  · rintro ⟨one, divides, zero⟩
    rw [same] at one
    exact ⟨one, fun divisor there => (group divisor).mp (divides divisor there), zero⟩
  · rintro ⟨one, divides, zero⟩
    refine ⟨?_, fun divisor there => (group divisor).mpr (divides divisor there), zero⟩
    rw [same]
    exact one

/-- Where no group bears a unit, units are what a reader of tokens takes them for. -/
theorem UnitGated.unitSound {level : Expression} (gated : level.UnitGated)
    (bare : ∀ product ∈ level.products, ∀ factor ∈ product, factor.isGroup →
      factor.bearsUnit = false) :
    level.UnitSound := by
  refine ⟨?_, ?_⟩
  · intro product there
    refine Nat.le_trans (List.countP_mono_left ?_) (gated.oneNumber product there)
    intro factor inside bears
    cases group : factor.isGroup with
    | false => rw [bears]; rfl
    | true =>
      rw [bare product there factor inside group] at bears
      exact absurd bears Bool.false_ne_true
  · intro divisor there
    obtain ⟨product, member, _, inside, rfl⟩ := exists_product_of_divisor level there
    refine Bool.eq_false_iff.mpr fun bears => ?_
    have group := gated.groupDivides _ there bears
    rw [bare product member _ inside group] at bears
    exact Bool.false_ne_true bears

end Expression

/-! ## The gate -/

/-- An accepted text is the text of exactly one tree. At every level of it, at most one factor of a
product bears a unit without being a group, a divisor bears a unit only as a group, and none is
spelled `0`. Where no group of the level bears a unit, no more than one factor of a product and no
divisor bears one. -/
theorem unit_gate_counts_numbers (text : String) (accepted : isExpression text) :
    ∃ e : Expression, e.written = text.toList ∧ (∀ e', e'.written = text.toList → e' = e) ∧
      ∀ level ∈ e.levels, level.UnitGated ∧
        ((∀ product ∈ level.products, ∀ factor ∈ product, factor.isGroup →
          factor.bearsUnit = false) → level.UnitSound) := by
  obtain ⟨e, written, admissible, -⟩ := exists_expression_of_isExpression accepted
  refine ⟨e, written, ?_, ?_⟩
  · intro e' written'
    exact written_injective (written'.trans written.symm)
  · intro level there
    have gated := (Expression.unitGated_iff level).mpr (admissible level there)
    exact ⟨gated, gated.unitSound⟩

theorem unit_gate_counts_numbers_product :
    isExpression "2 * (3px - 4) / 5" = true ∧
      ∃ e : Expression, e.written = "2 * (3px - 4) / 5".toList ∧
        (∀ e', e'.written = "2 * (3px - 4) / 5".toList → e' = e) ∧
        ∀ level ∈ e.levels, level.UnitGated ∧
          ((∀ product ∈ level.products, ∀ factor ∈ product, factor.isGroup →
            factor.bearsUnit = false) → level.UnitSound) := by
  have accepted : isExpression "2 * (3px - 4) / 5" = true := by decide +kernel
  exact ⟨accepted, unit_gate_counts_numbers _ accepted⟩

/-! ## Units that nobody counts -/

/-- A product of a length and a group of lengths, divided by a group of lengths and by a zero that
has a point. -/
def hidingUnits : Expression :=
  .binary (.binary (.binary (.operand two) .times lengths) .divide lengths) .divide zero
where
  px : UnitName :=
    ⟨['p', 'x'], List.cons_ne_nil _ _,
      List.forall_mem_cons.2 ⟨by decide, List.forall_mem_singleton.2 (by decide)⟩,
      by decide⟩
  pixels (digit : Char) (decimal : isDigit digit) : Operand :=
    .number ⟨false, [digit], .whole (List.cons_ne_nil _ _) (List.forall_mem_singleton.2 decimal)⟩
      (some px)
  one : Operand := pixels '1' (by decide)
  two : Operand := pixels '2' (by decide)
  zero : Operand :=
    .number ⟨false, ['0'] ++ '.' :: ['0'],
      .fraction (List.forall_mem_singleton.2 (by decide)) (List.cons_ne_nil _ _)
        (List.forall_mem_singleton.2 (by decide))⟩ none
  lengths : Operand := .group false (.binary (.operand one) .plus one)

/-- At the same level of an accepted text, two factors of a product can bear units, a divisor can
bear one, and a divisor can be zero. -/
theorem units_hide_in_groups :
    (¬ ∀ (text : String) (e : Expression), isExpression text = true → e.written = text.toList →
      ∀ level ∈ e.levels, ∀ product ∈ level.products,
        product.countP Operand.bearsUnit ≤ 1) ∧
    (¬ ∀ (text : String) (e : Expression), isExpression text = true → e.written = text.toList →
      ∀ level ∈ e.levels, ∀ divisor ∈ level.divisors, divisor.bearsUnit = false) ∧
    ¬ ∀ (text : String) (e : Expression), isExpression text = true → e.written = text.toList →
      ∀ level ∈ e.levels, ∀ divisor ∈ level.divisors, divisor.isNaught = false := by
  have accepted : isExpression "2px * (1px + 1px) / (1px + 1px) / 0.0" = true := by decide +kernel
  have written :
      hidingUnits.written = "2px * (1px + 1px) / (1px + 1px) / 0.0".toList := by decide +kernel
  have top : hidingUnits ∈ hidingUnits.levels := List.mem_cons_self
  refine ⟨fun one => ?_, fun none => ?_, fun none => ?_⟩
  · have few := one _ _ accepted written _ top _ List.mem_cons_self
    exact absurd few (by decide +kernel)
  · have bare := none _ _ accepted written _ top hidingUnits.lengths (.tail _ (.head _))
    exact absurd bare (by decide +kernel)
  · have spelled := none _ _ accepted written _ top hidingUnits.zero (.head _)
    exact absurd spelled (by decide +kernel)

end DesignTokens.Calc
