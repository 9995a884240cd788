import DesignTokens.Calc.Check
import DesignTokens.Proofs.Calc.Tokens

/-!
# From trees to acceptance

The tokens of an admissible derivation tree are accepted (`check_tokens`). While they are read, the
innermost scope remembers of the operands to its left what the grammar needs for the next one:
their latest operator, and whether their latest product has a unit (`Expression.scope`). So a scope
takes an operand exactly when the operand fits (`takes_afterOperator`), and the tokens of a tree
lead from an empty scope to the scope of the tree (`steps_expression`), by induction on the tree.
-/

namespace DesignTokens.Calc

/-! ## What a scope knows of a tree -/

/-- The part that an operator of a tree plays. -/
def BinaryOperator.role : BinaryOperator → Operator
  | .plus => .plus
  | .minus => .minus
  | .times => .times
  | .divide => .divide

theorem BinaryOperator.ofText_char (operator : BinaryOperator) :
    Operator.ofText [operator.char] = operator.role := by
  cases operator <;> rfl

theorem BinaryOperator.isAdditive_role (operator : BinaryOperator) :
    operator.role.isAdditive = operator.isAdditive := by
  cases operator <;> rfl

namespace Operand

/-- The kind of the last token. -/
def lastKind : Operand → Kind
  | .number _ none => .number
  | .number _ (some _) => .unit
  | .lookup _ => .customProperty
  | .group .. => .closing

/-- Whether there is an operator in a group. -/
def hasOperator (o : Operand) : Bool :=
  o.levels.any Expression.isBinary

theorem lastKind_ne_operator (o : Operand) : o.lastKind ≠ .operator := by
  unfold lastKind
  split <;> decide

theorem lastKind_ne_blank (o : Operand) : o.lastKind ≠ .blank := by
  unfold lastKind
  split <;> decide

theorem lastKind_ne_opening (o : Operand) : o.lastKind ≠ .opening := by
  unfold lastKind
  split <;> decide

end Operand

namespace Expression

/-- The operand that was written last. -/
def last : Expression → Operand
  | .operand only => only
  | .binary _ _ right => right

/-- The scope that has read a tree. -/
def scope (e : Expression) : Scope :=
  ⟨e.latest.map (·.role), e.carriesUnit, some e.last.lastKind⟩

theorem hasOperator_operand (only : Operand) :
    (Expression.operand only).hasOperator = only.hasOperator := by
  simp [hasOperator, levels, isBinary, innerLevels, Operand.hasOperator]

theorem hasOperator_binary (left : Expression) (operator : BinaryOperator) (right : Operand) :
    (Expression.binary left operator right).hasOperator = true := rfl

end Expression

/-- The scope after one more operand. -/
def Scope.after (scope : Scope) (o : Operand) : Scope :=
  ⟨scope.latest, scope.unitSeen || o.isDimension, some o.lastKind⟩

/-- The state after one more operand. -/
def State.after (state : State) (o : Operand) : State :=
  ⟨state.current.after o, state.outer, state.operatorSeen || o.hasOperator⟩

/-- The scope after one more operator. -/
def Scope.afterOperator (e : Expression) (operator : BinaryOperator) : Scope :=
  ⟨some operator.role, e.carriesUnit && !operator.isAdditive, some .operator⟩

/-- An operand that keeps the rules about units and divisors in a scope. -/
structure Scope.Takes (scope : Scope) (o : Operand) : Prop where
  divisor : scope.latest = some .divide → o.isDimension = false ∧ o.isZero = false
  product : scope.latest = some .times → scope.unitSeen → o.isDimension = false

theorem takes_empty (o : Operand) : Scope.empty.Takes o :=
  ⟨nofun, nofun⟩

/-- A scope takes an operand behind an operator exactly when it fits there. -/
theorem takes_afterOperator {e : Expression} {operator : BinaryOperator} {o : Operand} :
    (Scope.afterOperator e operator).Takes o ↔ e.Fits operator o := by
  constructor
  · rintro ⟨divisor, product⟩
    refine ⟨fun dimension => ?_, fun divide => divisor (by rw [divide]; rfl)⟩
    cases operator with
    | plus | minus => exact .inl rfl
    | times =>
      refine .inr (Bool.eq_false_iff.mpr fun carried => ?_)
      have := product rfl (by simpa [Scope.afterOperator, BinaryOperator.isAdditive] using carried)
      rw [dimension] at this
      contradiction
    | divide =>
      have := (divisor rfl).1
      rw [dimension] at this
      contradiction
  · rintro ⟨dimension, divisor⟩
    cases operator with
    | plus | minus => exact ⟨nofun, nofun⟩
    | times =>
      refine ⟨nofun, fun _ carried => Bool.eq_false_iff.mpr fun isDimension => ?_⟩
      rcases dimension isDimension with additive | free
      · contradiction
      · simp [Scope.afterOperator, free] at carried
    | divide => exact ⟨fun _ => divisor rfl, nofun⟩

/-! ## One token -/

theorem steps_cons {state next : State} {token : Token} {before : Option Kind}
    {rest : List Token} (read : step state token before (rest.head?.map (·.kind)) = .ok next) :
    steps state before (token :: rest) = steps next (some token.kind) rest := by
  rw [steps, read]
  rfl

/-- The first token of an operand is no closing parenthesis. -/
theorem exists_first_token (o : Operand) (pos : Nat) :
    ∃ first others, o.tokens pos = first :: others ∧ first.kind ≠ .closing := by
  cases o with
  | number value unit =>
    cases unit with
    | none => exact ⟨_, _, rfl, nofun⟩
    | some unit => exact ⟨_, _, rfl, nofun⟩
  | lookup name => exact ⟨_, _, rfl, nofun⟩
  | group named inner => exact ⟨_, _, rfl, nofun⟩

theorem isVariableText_call (name : VariableName) : isVariableText name.call = true := by
  have found := variableName?_append name []
  simp only [List.cons_append, List.nil_append] at found
  simp [isVariableText, VariableName.call, found]

theorem step_number {state : State} (value : Numeral) {pos : Int} {before after : Option Kind}
    (wants : state.current.wantsOperand)
    (takes : state.current.Takes (.number value none)) :
    step state ⟨.number, value.written, pos⟩ before after =
      .ok (state.after (.number value none)) := by
  have notZero : ¬ (state.current.latest = some .divide ∧ value.written = ['0']) := by
    rintro ⟨divide, zero⟩
    have := (takes.divisor divide).2
    simp [Operand.isZero, zero] at this
  have point := value.getLast?_written
  simp [step, checkNumber, wants, point, notZero, State.after, Scope.after, State.see,
    Operand.isDimension, Operand.lastKind, Operand.hasOperator, Operand.levels]

theorem step_unit {state : State} (value : Numeral) (unit : UnitName) {pos : Int}
    {after : Option Kind} (takes : state.current.Takes (.number value (some unit))) :
    step (state.after (.number value none)) ⟨.unit, unit.letters, pos⟩ (some .number) after =
      .ok (state.after (.number value (some unit))) := by
  have notDivide : state.current.latest ≠ some .divide := fun divide =>
    absurd (takes.divisor divide).1 (by simp [Operand.isDimension])
  have notTwo : ¬ (state.current.latest = some .times ∧ state.current.unitSeen = true) := by
    rintro ⟨times, seen⟩
    exact absurd (takes.product times seen) (by simp [Operand.isDimension])
  simp [step, checkUnit, State.after, Scope.after, notDivide, notTwo, Operand.isDimension,
    Operand.lastKind, Operand.hasOperator, Operand.levels]

theorem step_lookup {state : State} (name : VariableName) {pos : Int} {before after : Option Kind}
    (wants : state.current.wantsOperand) :
    step state ⟨.customProperty, name.call, pos⟩ before after =
      .ok (state.after (.lookup name)) := by
  simp [step, checkVariable, wants, isVariableText_call, State.after, Scope.after, State.see,
    Operand.isDimension, Operand.lastKind, Operand.hasOperator, Operand.levels]

theorem Operand.hasOperator_group (named : Bool) (inner : Expression) :
    (Operand.group named inner).hasOperator = inner.hasOperator := rfl

theorem Operand.lastKind_group (named : Bool) (inner : Expression) :
    (Operand.group named inner).lastKind = .closing := rfl

theorem step_closing (scope : Scope) {opened : Token} {outer : List (Token × Scope)} {seen : Bool}
    (named : Bool) (inner : Expression) {pos : Int} {before after : Option Kind} :
    step ⟨inner.scope, (opened, { scope with last := some .opening }) :: outer,
        seen || inner.hasOperator⟩ ⟨.closing, [')'], pos⟩ before after =
      .ok (State.after ⟨scope, outer, seen⟩ (.group named inner)) := by
  simp [step, checkClosing, Expression.scope, Operand.lastKind_ne_operator, State.see, State.after,
    Scope.after, Operand.isDimension, Operand.lastKind_group, Operand.hasOperator_group]

theorem step_blank {state : State} {pos : Int} {before after : Kind} (notBlank : before ≠ .blank)
    (notOpening : before ≠ .opening) (notClosing : after ≠ .closing) :
    step state ⟨.blank, [' '], pos⟩ (some before) (some after) = .ok state := by
  simp [step, checkBlank, notBlank, notOpening, notClosing]

theorem step_operator {state : State} {e : Expression} (operator : BinaryOperator) {pos : Int}
    (current : state.current = e.scope) :
    step state ⟨.operator, [operator.char], pos⟩ (some .blank) (some .blank) =
      .ok ⟨.afterOperator e operator, state.outer, true⟩ := by
  simp [step, checkOperator, current, Expression.scope, Scope.wantsOperand,
    Operand.lastKind_ne_operator, operator.ofText_char, operator.isAdditive_role,
    Scope.afterOperator]

/-! ## All tokens -/

mutual
/-- The tokens of an operand lead to the state after the operand. -/
theorem steps_operand (o : Operand) (admissible : o.Admissible) {state : State}
    {before : Option Kind} {pos : Nat} {rest : List Token} (wants : state.current.wantsOperand)
    (takes : state.current.Takes o) :
    steps state before (o.tokens pos ++ rest) = steps (state.after o) (some o.lastKind) rest := by
  cases o with
  | number value unit =>
    cases unit with
    | none => exact steps_cons (step_number value wants takes)
    | some unit =>
      have plain : state.current.Takes (.number value none) := by
        refine ⟨fun divide => ?_, fun _ _ => rfl⟩
        exact absurd (takes.divisor divide).1 (by simp [Operand.isDimension])
      refine (steps_cons (step_number value wants plain)).trans ?_
      exact steps_cons (step_unit value unit takes)
  | lookup name => exact steps_cons (step_lookup name wants)
  | group named inner =>
    have inside : inner.Admissible := admissible
    have opened : step state ⟨.opening, opener named, pos⟩ before
        ((inner.tokens (pos + (opener named).length) ++
          ⟨.closing, [')'], ↑(pos + (opener named).length + inner.written.length)⟩ ::
            rest).head?.map (·.kind)) =
        .ok ⟨.empty, (⟨.opening, opener named, pos⟩, (state.see .opening).current) :: state.outer,
          state.operatorSeen⟩ := if_pos wants
    simp only [Operand.tokens, List.cons_append, List.append_assoc, List.nil_append]
    refine (steps_cons opened).trans ((steps_expression inner inside rfl).trans ?_)
    exact steps_cons (step_closing state.current named inner)

/-- The tokens of an expression lead from an empty scope to the scope of the expression. -/
theorem steps_expression (e : Expression) (admissible : e.Admissible) {state : State}
    {before : Option Kind} {pos : Nat} {rest : List Token} (empty : state.current = .empty) :
    steps state before (e.tokens pos ++ rest) =
      steps ⟨e.scope, state.outer, state.operatorSeen || e.hasOperator⟩ (some e.last.lastKind)
        rest := by
  cases e with
  | operand only =>
    have wants : state.current.wantsOperand := by
      rw [empty]
      rfl
    have inside := Expression.admissible_operand.mp admissible
    refine (steps_operand only inside wants (empty ▸ takes_empty only)).trans ?_
    simp [State.after, Scope.after, empty, Scope.empty, Expression.scope, Expression.latest,
      Expression.carriesUnit_operand, Expression.hasOperator_operand, Expression.last]
  | binary left operator right =>
    obtain ⟨inLeft, inRight, fits⟩ := Expression.admissible_binary.mp admissible
    obtain ⟨first, others, starts, notClosing⟩ :=
      exists_first_token right (pos + left.written.length + 3)
    simp only [Expression.tokens, List.append_assoc, List.cons_append]
    refine (steps_expression left inLeft empty).trans ?_
    -- A blank looks at the token behind it, so the first token of the right operand gets a name.
    refine (steps_cons (step_blank left.last.lastKind_ne_blank left.last.lastKind_ne_opening
      (by decide : Kind.operator ≠ .closing))).trans ?_
    refine (steps_cons (step_operator operator rfl)).trans ?_
    rw [starts]
    refine (steps_cons (step_blank (by decide : Kind.operator ≠ .blank) (by decide)
      notClosing)).trans ?_
    rw [← starts]
    refine (steps_operand right inRight rfl (takes_afterOperator.mpr fits)).trans ?_
    simp [State.after, Scope.after, Scope.afterOperator, Expression.scope, Expression.latest,
      Expression.carriesUnit_binary, Expression.hasOperator_binary, Expression.last, Bool.or_comm]
end

theorem tokens_ne_nil (e : Expression) (pos : Nat) : e.tokens pos ≠ [] := by
  cases e with
  | operand only =>
    obtain ⟨first, others, same, _⟩ := exists_first_token only pos
    simp [Expression.tokens, same]
  | binary left operator right => simp [Expression.tokens]

/-- The tokens of an admissible tree with an operator are accepted. -/
theorem check_tokens {e : Expression} (pos : Nat) (admissible : e.Admissible)
    (operator : e.hasOperator) : check (e.tokens pos) = .ok () := by
  have reached : steps .start none (e.tokens pos ++ []) =
      .ok ⟨e.scope, [], false || e.hasOperator⟩ := steps_expression e admissible rfl
  rw [List.append_nil, operator] at reached
  have last := List.getLast?_eq_some_getLast (tokens_ne_nil e pos)
  rw [check, reached]
  show finish ⟨e.scope, [], false || true⟩ (e.tokens pos) = .ok ()
  simp [finish, last, Expression.scope, e.last.lastKind_ne_operator]

end DesignTokens.Calc
