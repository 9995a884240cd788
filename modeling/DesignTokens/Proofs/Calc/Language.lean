import DesignTokens.Proofs.Calc.Acceptance
import DesignTokens.Proofs.Calc.Seams

/-!
# Which texts are expressions

`Calc.isExpression` accepts exactly the texts of the admissible derivation trees with an operator
(`isExpression_iff_derivable`).

One direction is `check_tokens`. For the other one, every open scope has read a part of a level that
has a tree:

* `Reads` relates a scope to what it has read of its level;
* `Open` relates the open parentheses to the text in front of the innermost one;
* `Holds` puts them together for a whole state.

One token keeps this (`step_sound`), so all tokens do (`steps_sound`). At the end one level is left,
and its tree is complete.
-/

namespace DesignTokens.Calc

/-! ## What has been read -/

/-- What has been read of a level. -/
inductive Front where
  | start
  | read (e : Expression)
  | waiting (e : Expression) (operator : BinaryOperator)

namespace Front

/-- The text of a front up to its last token that is not blank. -/
def written : Front → List Char
  | .start => []
  | .read e => e.written
  | .waiting e operator => e.written ++ [' ', operator.char]

/-- The text of a front where the next operand starts. -/
def lead : Front → List Char
  | .waiting e operator => e.written ++ [' ', operator.char, ' ']
  | front => front.written

/-- The tree of a front and the operand behind it. -/
def extend : Front → Operand → Expression
  | .waiting e operator, o => .binary e operator o
  | _, o => .operand o

/-- Whether there is an operator in a front. -/
def hasOperator : Front → Bool
  | .start => false
  | .read e => e.hasOperator
  | .waiting .. => true

end Front

/-- The scope has read the front, and the trees in it keep the rules. -/
inductive Reads : Scope → Front → Prop
  | start : Reads .empty .start
  | read {e : Expression} : e.Admissible → Reads e.scope (.read e)
  | waiting {e : Expression} {operator : BinaryOperator} :
      e.Admissible → Reads (.afterOperator e operator) (.waiting e operator)

/-- `Open outer text seen`: the open parentheses of `outer` end the text, and `seen` says whether
there is an operator outside of them. -/
inductive Open : List (Token × Scope) → List Char → Bool → Prop
  | none : Open [] [] false
  | group {outer : List (Token × Scope)} {text : List Char} {seen : Bool} {scope : Scope}
      {front : Front} (token : Token) (named : Bool) :
      Open outer text seen → Reads scope front → scope.wantsOperand →
      Open ((token, { scope with last := some .opening }) :: outer)
        (text ++ front.lead ++ opener named) (seen || front.hasOperator)

/-- The blank behind a front, when it was the last token. -/
def pending : Option Kind → List Char
  | some .blank => [' ']
  | _ => []

/-- The last token in front of the next one, by what has been read of the level. -/
def Precedes (before : Option Kind) : Front → Prop
  | .start => before = none ∨ before = some .opening
  | .read e => before = some e.last.lastKind ∨ before = some .blank
  | .waiting .. => before = some .operator ∨ before = some .blank

/-- The state has read the text, and `before` is the kind of its last token. -/
def Holds (state : State) (before : Option Kind) (text : List Char) : Prop :=
  ∃ outside seen front, Open state.outer outside seen ∧ Reads state.current front ∧
    Precedes before front ∧ state.operatorSeen = (seen || front.hasOperator) ∧
    text = outside ++ front.written ++ pending before

/-- What look-ahead has made sure of: a blank follows an operator, and something other than a
closing parenthesis follows a blank. -/
def Joins (before next : Option Kind) : Prop :=
  (before = some .operator → ∀ kind ∈ next, kind = .blank) ∧
    (before = some .blank → ∃ kind ∈ next, kind ≠ .closing)

theorem wantsOperand_scope (e : Expression) : e.scope.wantsOperand = false := by
  simp [Scope.wantsOperand, Expression.scope, e.last.lastKind_ne_operator]

/-- A scope that takes an operand has read the tree with the operand at its end. -/
theorem Reads.extend {scope : Scope} {front : Front} {o : Operand} (reads : Reads scope front)
    (wants : scope.wantsOperand) (admissible : o.Admissible) (takes : scope.Takes o) :
    Reads (scope.after o) (.read (front.extend o)) := by
  cases reads with
  | start =>
    have same : Scope.empty.after o = (Expression.operand o).scope := by
      simp [Scope.after, Scope.empty, Expression.scope, Expression.latest,
        Expression.carriesUnit_operand, Expression.last]
    rw [same]
    exact .read (Expression.admissible_operand.mpr admissible)
  | @read e _ => exact absurd wants (by simp [wantsOperand_scope])
  | @waiting e operator inLeft =>
    have same : (Scope.afterOperator e operator).after o = (e.binary operator o).scope := by
      simp [Scope.after, Scope.afterOperator, Expression.scope, Expression.latest,
        Expression.carriesUnit_binary, Expression.last, Bool.or_comm]
    rw [same]
    exact .read (Expression.admissible_binary.mpr
      ⟨inLeft, admissible, takes_afterOperator.mp takes⟩)

theorem Front.written_extend {scope : Scope} {front : Front} (o : Operand)
    (reads : Reads scope front) (wants : scope.wantsOperand) :
    (front.extend o).written = front.lead ++ o.written := by
  cases reads with
  | start => rfl
  | @read e _ => exact absurd wants (by simp [wantsOperand_scope])
  | waiting _ => rfl

theorem Front.hasOperator_extend {scope : Scope} {front : Front} (o : Operand)
    (reads : Reads scope front) (wants : scope.wantsOperand) :
    (front.extend o).hasOperator = (front.hasOperator || o.hasOperator) := by
  cases reads with
  | start => exact Expression.hasOperator_operand o
  | @read e _ => exact absurd wants (by simp [wantsOperand_scope])
  | waiting _ => rfl

theorem Front.last_extend (front : Front) (o : Operand) : (front.extend o).last = o := by
  cases front <;> rfl

theorem pending_of_ne {before : Option Kind} (notBlank : before ≠ some .blank) :
    pending before = [] := by
  unfold pending
  split
  · contradiction
  · rfl

/-- In front of an operand, a blank has been read behind an operator and none at the start. -/
theorem Front.lead_eq {scope : Scope} {front : Front} {before : Option Kind} {kind : Kind}
    (reads : Reads scope front) (wants : scope.wantsOperand) (precedes : Precedes before front)
    (joins : Joins before (some kind)) (notBlank : kind ≠ .blank) :
    front.lead = front.written ++ pending before := by
  cases reads with
  | start => rcases precedes with rfl | rfl <;> rfl
  | @read e _ => exact absurd wants (by simp [wantsOperand_scope])
  | waiting _ =>
    rcases precedes with rfl | rfl
    · exact absurd (joins.1 rfl kind rfl) notBlank
    · simp [lead, written, pending]

/-- A front that is extended by an operand is read with the operand's text behind it. -/
theorem Holds.of_extend {outer : List (Token × Scope)} {outside : List Char} {seen : Bool}
    {scope : Scope} {front : Front} {o : Operand} (opens : Open outer outside seen)
    (reads : Reads scope front) (wants : scope.wantsOperand) (admissible : o.Admissible)
    (takes : scope.Takes o) :
    Holds ⟨scope.after o, outer, seen || front.hasOperator || o.hasOperator⟩ (some o.lastKind)
      (outside ++ front.lead ++ o.written) := by
  refine ⟨outside, seen, .read (front.extend o), opens, reads.extend wants admissible takes, ?_,
    ?_, ?_⟩
  · exact .inl (by rw [front.last_extend])
  · show (seen || front.hasOperator || o.hasOperator) = (seen || (front.extend o).hasOperator)
    rw [front.hasOperator_extend o reads wants, Bool.or_assoc]
  · have ends : pending (some o.lastKind) = [] :=
      pending_of_ne (by simpa using o.lastKind_ne_blank)
    show _ = outside ++ (front.extend o).written ++ _
    rw [front.written_extend o reads wants, ends, List.append_nil, List.append_assoc]

theorem Holds.operand {state : State} {before : Option Kind} {text : List Char} {kind : Kind}
    {o : Operand} (holds : Holds state before text) (wants : state.current.wantsOperand)
    (joins : Joins before (some kind)) (notBlank : kind ≠ .blank) (admissible : o.Admissible)
    (takes : state.current.Takes o) :
    Holds (state.after o) (some o.lastKind) (text ++ o.written) := by
  obtain ⟨outside, seen, front, opens, reads, precedes, operators, rfl⟩ := holds
  have extended := Holds.of_extend opens reads wants admissible takes
  rw [front.lead_eq reads wants precedes joins notBlank, ← operators, ← List.append_assoc]
    at extended
  exact extended

/-! ## One token -/

section Step

variable {state next : State} {token : Token} {before after : Option Kind} {text : List Char}

theorem checkBlank_sound (read : checkBlank state token before after = .ok next)
    (spelled : token.text = [' ']) (holds : Holds state before text) :
    Holds next (some .blank) (text ++ token.text) ∧ Joins (some .blank) after := by
  unfold checkBlank at read
  split at read
  · next b a =>
    split at read
    · cases read
    · next misplaced =>
      simp only [not_or] at misplaced
      cases read
      obtain ⟨outside, seen, front, opens, reads, precedes, operators, rfl⟩ := holds
      refine ⟨⟨outside, seen, front, opens, reads, ?_, operators, ?_⟩, nofun, fun _ =>
        ⟨a, rfl, misplaced.2.2⟩⟩
      · cases front with
        | start => rcases precedes with none | opening <;> simp_all
        | read e => exact .inr rfl
        | waiting e operator => exact .inr rfl
      · rw [spelled, pending_of_ne (by simpa using misplaced.1)]
        simp [pending]
  · cases read

theorem checkOpening_sound (read : checkOpening state token = .ok next)
    (spelled : ∃ named, token.text = opener named) (joins : Joins before (some .opening))
    (holds : Holds state before text) : Holds next (some .opening) (text ++ token.text) := by
  unfold checkOpening at read
  split at read
  · next wants =>
    cases read
    obtain ⟨named, spelled⟩ := spelled
    obtain ⟨outside, seen, front, opens, reads, precedes, operators, rfl⟩ := holds
    refine ⟨_, _, .start, .group token named opens reads wants, .start, .inr rfl, ?_, ?_⟩
    · simpa [Front.hasOperator] using operators
    · rw [spelled, front.lead_eq reads wants precedes joins (by decide)]
      simp [Front.written, pending]
  · cases read

theorem checkClosing_sound (read : checkClosing state token = .ok next)
    (spelled : token.text = [')']) (joins : Joins before (some .closing))
    (holds : Holds state before text) : Holds next (some .closing) (text ++ token.text) := by
  obtain ⟨outside, seen, front, opens, reads, precedes, operators, rfl⟩ := holds
  have notBlank : before ≠ some .blank := by
    intro blank
    obtain ⟨kind, member, other⟩ := joins.2 blank
    exact other (Option.some.inj member).symm
  unfold checkClosing at read
  split at read
  · cases read
  · next opened scope outer stack =>
    split at read
    · cases read
    split at read
    · cases read
    · next notEmpty notWaiting =>
      cases read
      rw [stack] at opens
      generalize state.current = current at reads notEmpty notWaiting
      cases reads with
      | start => exact absurd rfl notEmpty
      | waiting _ => exact absurd rfl notWaiting
      | @read inner admissible =>
        -- The level that ends is now one operand of the level around it.
        cases opens with
        | @group _ around seen scope front _ named opens reads wants =>
          have takes : scope.Takes (.group named inner) :=
            ⟨fun _ => ⟨rfl, rfl⟩, fun _ _ => rfl⟩
          have extended :=
            Holds.of_extend opens reads wants (o := .group named inner) admissible takes
          simpa [Scope.after, Operand.isDimension, Operand.lastKind_group, Operand.written,
            Operand.hasOperator_group, Front.written, Front.hasOperator, State.see, spelled,
            operators, pending_of_ne notBlank] using extended

theorem checkNumber_sound (read : checkNumber state token = .ok next)
    (spelled : Spelled .number token.text) (joins : Joins before (some .number))
    (holds : Holds state before text) : Holds next (some .number) (text ++ token.text) := by
  unfold checkNumber at read
  split at read
  · cases read
  split at read
  · cases read
  split at read
  · cases read
  · next wants notPoint notZero =>
    cases read
    obtain ⟨value, written⟩ := exists_numeral spelled notPoint
    have takes : state.current.Takes (.number value none) := by
      refine ⟨fun divide => ⟨rfl, ?_⟩, fun _ _ => rfl⟩
      have other : token.text ≠ ['0'] := fun zero => notZero ⟨divide, zero⟩
      simpa [Operand.isZero, written] using other
    have inside := Operand.admissible_of_levels_eq_nil (o := .number value none) rfl
    have holds := holds.operand (by simpa using wants) joins (by decide) inside takes
    simpa [State.after, Scope.after, Operand.isDimension, Operand.lastKind, Operand.hasOperator,
      Operand.levels, Operand.written, unitLetters, written, State.see] using holds

theorem checkVariable_sound (read : checkVariable state token = .ok next)
    (spelled : ∃ name : VariableName, token.text = name.call)
    (joins : Joins before (some .customProperty)) (holds : Holds state before text) :
    Holds next (some .customProperty) (text ++ token.text) := by
  unfold checkVariable at read
  split at read
  · cases read
  split at read
  · cases read
  · next wants _ =>
    cases read
    obtain ⟨name, written⟩ := spelled
    have takes : state.current.Takes (.lookup name) := ⟨fun _ => ⟨rfl, rfl⟩, fun _ _ => rfl⟩
    have inside := Operand.admissible_of_levels_eq_nil (o := .lookup name) rfl
    have holds := holds.operand (by simpa using wants) joins (by decide) inside takes
    simpa [State.after, Scope.after, Operand.isDimension, Operand.lastKind, Operand.hasOperator,
      Operand.levels, Operand.written, written, State.see] using holds

theorem checkOperator_sound (read : checkOperator state token before after = .ok next)
    (spelled : ∃ operator : BinaryOperator, token.text = [operator.char])
    (holds : Holds state before text) :
    Holds next (some .operator) (text ++ token.text) ∧ Joins (some .operator) after := by
  unfold checkOperator at read
  split at read
  · cases read
  split at read
  · cases read
  split at read
  · cases read
  · next wants notBlank notFollowed =>
    cases read
    obtain ⟨operator, spelled⟩ := spelled
    obtain ⟨outside, seen, front, opens, reads, precedes, operators, rfl⟩ := holds
    have joins : Joins (some .operator) after := by
      refine ⟨fun _ kind member => ?_, nofun⟩
      obtain rfl : after = some kind := member
      simpa using notFollowed
    refine ⟨?_, joins⟩
    generalize state.current = current at reads wants ⊢
    cases reads with
    | start => exact absurd rfl wants
    | waiting _ => exact absurd rfl wants
    | @read e admissible =>
      have blank : before = some .blank := by simpa using notBlank
      refine ⟨outside, seen, .waiting e operator, opens, ?_, .inl rfl, ?_, ?_⟩
      · rw [spelled, operator.ofText_char, operator.isAdditive_role]
        exact .waiting admissible
      · simp [Front.hasOperator]
      · rw [spelled, blank]
        simp [Front.written, pending]

/-- What ends in a number without a unit is a front with the number behind it. -/
theorem exists_front {e : Expression} (admissible : e.Admissible)
    (number : e.last.lastKind = .number) :
    ∃ scope front value, Reads scope front ∧ scope.wantsOperand ∧
      e = front.extend (.number value none) ∧ scope.latest = e.scope.latest ∧
      scope.unitSeen = e.scope.unitSeen := by
  have plain {o : Operand} (number : o.lastKind = .number) : ∃ value, o = .number value none := by
    unfold Operand.lastKind at number
    split at number
    · exact ⟨_, rfl⟩
    all_goals contradiction
  cases e with
  | operand only =>
    obtain ⟨value, rfl⟩ := plain number
    exact ⟨.empty, .start, value, .start, rfl, rfl, rfl, rfl⟩
  | binary left operator right =>
    obtain ⟨value, rfl⟩ := plain number
    have inLeft := (Expression.admissible_binary.mp admissible).1
    refine ⟨.afterOperator left operator, .waiting left operator, value, .waiting inLeft, rfl, rfl,
      rfl, ?_⟩
    simp [Scope.afterOperator, Expression.scope, Expression.carriesUnit_binary,
      Operand.isDimension]

/-- A unit behind a number belongs to the last operand of what has been read. -/
theorem checkUnit_sound (read : checkUnit state token before = .ok next)
    (spelled : ∃ unit : UnitName, token.text = unit.letters) (holds : Holds state before text) :
    Holds next (some .unit) (text ++ token.text) := by
  unfold checkUnit at read
  split at read
  · cases read
  split at read
  · cases read
  split at read
  · cases read
  · next isNumber notDivide notTwo =>
    cases read
    obtain ⟨unit, spelled⟩ := spelled
    obtain ⟨outside, seen, front, opens, reads, precedes, operators, rfl⟩ := holds
    have number : before = some .number := by simpa using isNumber
    subst number
    generalize state.current = current at reads notDivide notTwo ⊢
    cases reads with
    | start => rcases precedes with none | opening <;> contradiction
    | waiting _ => rcases precedes with operator | blank <;> contradiction
    | @read e admissible =>
      have last : e.last.lastKind = .number := by
        rcases precedes with same | blank
        · exact (Option.some.inj same).symm
        · contradiction
      -- The number has been read as an operand by itself. It is taken off the tree and put back
      -- with its unit.
      obtain ⟨scope, front, value, reads, wants, rfl, latest, unitSeen⟩ :=
        exists_front admissible last
      have takes : scope.Takes (.number value (some unit)) :=
        ⟨fun divide => absurd (latest ▸ divide) notDivide,
          fun times seen => absurd ⟨latest ▸ times, unitSeen ▸ seen⟩ notTwo⟩
      have inside := Operand.admissible_of_levels_eq_nil (o := .number value (some unit)) rfl
      have extended := Holds.of_extend opens reads wants inside takes
      simpa [Scope.after, Operand.isDimension, Operand.lastKind, Operand.written, unitLetters,
        Operand.hasOperator, Operand.levels, Front.written, Front.hasOperator, pending, latest,
        spelled, operators, front.written_extend _ reads wants,
        front.hasOperator_extend _ reads wants] using extended

/-- Reading one token extends what has been read by its text. -/
theorem step_sound (read : step state token before after = .ok next)
    (spelled : Spelled token.kind token.text) (joins : Joins before (some token.kind))
    (holds : Holds state before text) :
    Holds next (some token.kind) (text ++ token.text) ∧ Joins (some token.kind) after := by
  unfold step at read
  cases kind : token.kind <;> simp only [kind] at read spelled joins
  case blank => exact checkBlank_sound read spelled holds
  case opening => exact ⟨checkOpening_sound read spelled joins holds, nofun, nofun⟩
  case closing => exact ⟨checkClosing_sound read spelled joins holds, nofun, nofun⟩
  case number => exact ⟨checkNumber_sound read spelled joins holds, nofun, nofun⟩
  case unit => exact ⟨checkUnit_sound read spelled holds, nofun, nofun⟩
  case customProperty => exact ⟨checkVariable_sound read spelled joins holds, nofun, nofun⟩
  case operator => exact checkOperator_sound read spelled holds

end Step

/-! ## All tokens -/

/-- Reading tokens extends what has been read by their texts, and no blank is left at the end. -/
theorem steps_sound {state final : State} {before : Option Kind} {tokens : List Token}
    {text : List Char} (read : steps state before tokens = .ok final)
    (spelled : ∀ token ∈ tokens, Spelled token.kind token.text)
    (joins : Joins before (tokens.head?.map (·.kind))) (holds : Holds state before text) :
    ∃ last, Holds final last (text ++ tokens.flatMap (·.text)) ∧ last ≠ some .blank := by
  induction tokens generalizing state before text with
  | nil =>
    cases read
    refine ⟨before, by simpa using holds, fun blank => ?_⟩
    obtain ⟨kind, member, _⟩ := joins.2 blank
    cases member
  | cons token rest ih =>
    obtain ⟨here, others⟩ := List.forall_mem_cons.mp spelled
    rw [steps] at read
    cases stepped : step state token before (rest.head?.map (·.kind)) with
    | error e =>
      rw [stepped] at read
      cases read
    | ok next =>
      rw [stepped] at read
      obtain ⟨holds, joins⟩ := step_sound stepped here joins holds
      obtain ⟨last, holds, notBlank⟩ := ih read others joins holds
      exact ⟨last, by simpa [List.flatMap_cons] using holds, notBlank⟩

theorem holds_start : Holds .start none [] :=
  ⟨[], false, .start, .none, .start, .inl rfl, rfl, rfl⟩

/-- Tokens that are accepted make up the text of an admissible tree. -/
theorem exists_expression_of_check {tokens : List Token}
    (spelled : ∀ token ∈ tokens, Spelled token.kind token.text) (accepted : check tokens = .ok ()) :
    ∃ e : Expression, e.written = tokens.flatMap (·.text) ∧ e.Admissible ∧ e.hasOperator := by
  unfold check at accepted
  cases read : steps .start none tokens with
  | error e =>
    rw [read] at accepted
    cases accepted
  | ok final =>
    rw [read] at accepted
    have accepted : finish final tokens = .ok () := accepted
    obtain ⟨last, holds, notBlank⟩ := steps_sound read spelled ⟨nofun, nofun⟩ holds_start
    obtain ⟨outside, seen, front, opens, reads, precedes, operators, text⟩ := holds
    unfold finish at accepted
    split at accepted
    · cases accepted
    split at accepted
    · next closed _ _ _ =>
      rw [closed] at opens
      cases opens
      split at accepted
      · cases accepted
      split at accepted
      · next notWaiting seen =>
        rw [seen] at operators
        generalize final.current = current at reads notWaiting
        cases reads with
        | start => contradiction
        | waiting _ => exact absurd rfl notWaiting
        | @read e admissible =>
          refine ⟨e, ?_, admissible, by simpa [Front.hasOperator] using operators.symm⟩
          simpa [Front.written, pending_of_ne notBlank] using text.symm
      · cases accepted
    · cases accepted

/-! ## Texts -/

/-- An expression is a text that is cut into tokens which are accepted. -/
theorem exists_tokens_of_isExpression {text : String} (accepted : isExpression text) :
    ∃ tokens, scan text.toList = .ok tokens ∧ check tokens = .ok () := by
  unfold isExpression at accepted
  cases outcome : read text with
  | error e =>
    rw [outcome] at accepted
    cases accepted
  | ok _ => exact Except.bind_eq_ok.mp outcome

theorem exists_expression_of_isExpression {text : String} (accepted : isExpression text) :
    ∃ e : Expression, e.written = text.toList ∧ e.Admissible ∧ e.hasOperator := by
  obtain ⟨tokens, scanned, checked⟩ := exists_tokens_of_isExpression accepted
  obtain ⟨spelled, whole⟩ := scanAt_sound scanned
  rw [← whole]
  exact exists_expression_of_check spelled checked

theorem isExpression_of_expression {e : Expression} {text : String}
    (written : e.written = text.toList) (admissible : e.Admissible) (operator : e.hasOperator) :
    isExpression text := by
  unfold isExpression read
  rw [← written, scan_written]
  show (check (e.tokens 0)).isOk = true
  rw [check_tokens 0 admissible operator]
  rfl

/-- A text is an expression exactly when it is derived from the grammar, with at most one unit in a
product, no unit and no `0` as a divisor, and an operator at some level. -/
theorem isExpression_iff_derivable (text : String) :
    isExpression text = true ↔
      ∃ e : Expression, e.written = text.toList ∧ e.Admissible ∧ e.hasOperator := by
  constructor
  · exact exists_expression_of_isExpression
  · rintro ⟨e, written, admissible, operator⟩
    exact isExpression_of_expression written admissible operator

/-! ## Texts that are no expressions -/

theorem Numeral.chars_written (value : Numeral) :
    ∀ c ∈ value.written, c = '-' ∨ isNumberChar c := by
  unfold Numeral.written
  intro c there
  split at there
  · exact (List.mem_cons.1 there).imp_right (value.isMagnitude.numberChars c)
  · exact .inr (value.isMagnitude.numberChars c there)

theorem Numeral.exists_front (value : Numeral) :
    ∃ c rest, value.written = c :: rest ∧ isWordChar c = false := by
  cases spelled : value.written with
  | nil =>
    unfold Numeral.written at spelled
    split at spelled
    · cases spelled
    · exact absurd spelled value.isMagnitude.ne_nil
  | cons c rest =>
    refine ⟨c, rest, rfl, ?_⟩
    rcases value.chars_written c (spelled ▸ List.mem_cons_self) with rfl | number
    · rfl
    · refine Bool.eq_false_iff.2 fun word => ?_
      rw [not_numberChar_of_wordChar word] at number
      cases number

/-- The first character of an operand is no letter, unless the operand is a variable or starts with
the word `calc`. -/
theorem Operand.exists_front (o : Operand) :
    ∃ c rest, o.written = c :: rest ∧ (isWordChar c → c = 'v' ∨ c = 'c') := by
  cases o with
  | number value unit =>
    obtain ⟨c, rest, spelled, other⟩ := value.exists_front
    refine ⟨c, rest ++ unitLetters unit, ?_, by simp [other]⟩
    rw [Operand.written, spelled, List.cons_append]
  | lookup name => exact ⟨_, _, rfl, fun _ => .inl rfl⟩
  | group named inner =>
    cases named with
    | true => exact ⟨_, _, rfl, fun _ => .inr rfl⟩
    | false => exact ⟨_, _, rfl, nofun⟩

/-- An expression is its first operand, with nothing or a blank behind it. -/
theorem Expression.exists_first : (e : Expression) →
    ∃ (o : Operand) (rest : List Char), e.written = o.written ++ rest ∧
      ∀ c ∈ rest.head?, c = ' '
  | .operand only => ⟨only, [], (List.append_nil _).symm, nofun⟩
  | .binary left operator right => by
    obtain ⟨o, rest, spelled, blank⟩ := left.exists_first
    refine ⟨o, rest ++ ([' ', operator.char, ' '] ++ right.written), ?_, ?_⟩
    · rw [Expression.written, spelled, List.append_assoc, List.append_assoc]
    · cases rest with
      | nil => simp
      | cons c rest => simpa using blank

theorem Expression.exists_front (e : Expression) :
    ∃ c rest, e.written = c :: rest ∧ (isWordChar c → c = 'v' ∨ c = 'c') := by
  obtain ⟨o, behind, spelled, -⟩ := e.exists_first
  obtain ⟨c, rest, front, letter⟩ := o.exists_front
  exact ⟨c, rest ++ behind, by rw [spelled, front, List.cons_append], letter⟩

/-- An operand that starts as a variable does is one. -/
theorem Operand.exists_lookup {o : Operand} {rest : List Char} (starts : o.written = 'v' :: rest) :
    ∃ name, o = .lookup name := by
  cases o with
  | number value unit =>
    obtain ⟨c, digits, spelled, other⟩ := value.exists_front
    rw [Operand.written, spelled] at starts
    obtain rfl : c = 'v' := (List.cons.inj starts).1
    exact absurd other (by decide)
  | lookup name => exact ⟨name, rfl⟩
  | group named inner =>
    rw [Operand.written] at starts
    cases named with
    | true => exact absurd (List.cons.inj starts).1 (by decide)
    | false => exact absurd (List.cons.inj starts).1 (by decide)

mutual
theorem Operand.comma_notMem_written : (o : Operand) → ',' ∉ o.written
  | .number value unit => by
    rw [Operand.written, List.mem_append]
    rintro (there | there)
    · exact absurd (value.chars_written _ there) (by decide)
    · cases unit with
      | none => cases there
      | some unit => exact absurd (unit.isWord _ there) (by decide)
  | .lookup name => by
    have other : ',' ∉ name.chars := fun there => absurd (name.isName _ there) (by decide)
    simp [Operand.written, VariableName.call, other]
  | .group named inner => by
    have other := inner.comma_notMem_written
    cases named <;> simp [Operand.written, opener, other]

/-- There is no comma in an expression. -/
theorem Expression.comma_notMem_written : (e : Expression) → ',' ∉ e.written
  | .operand only => only.comma_notMem_written
  | .binary left operator right => by
    have before := left.comma_notMem_written
    have behind := right.comma_notMem_written
    cases operator <;> simp [Expression.written, BinaryOperator.char, before, behind]
end

theorem not_isExpression_of_comma {text : String} (there : ',' ∈ text.toList) :
    isExpression text = false := by
  refine Bool.eq_false_iff.2 fun accepted => ?_
  obtain ⟨e, spelled, -⟩ := exists_expression_of_isExpression accepted
  exact e.comma_notMem_written (spelled ▸ there)

/-- A text that starts with a letter is no expression, unless it starts with a variable or the word
`calc`. -/
theorem not_isExpression_of_letter {text : String} {c : Char} {rest : List Char}
    (spelled : text.toList = c :: rest) (letter : isWordChar c) (other : c ≠ 'v' ∧ c ≠ 'c') :
    isExpression text = false := by
  refine Bool.eq_false_iff.2 fun accepted => ?_
  obtain ⟨e, written, -⟩ := exists_expression_of_isExpression accepted
  obtain ⟨d, behind, front, first⟩ := e.exists_front
  rw [← written, front] at spelled
  cases spelled
  exact (first letter).elim other.1 other.2

/-- When all tokens are read, so are those behind each of them. -/
theorem exists_steps_behind {state final : State} {before : Option Kind} {front behind : List Token}
    {token : Token} (read : steps state before (front ++ token :: behind) = .ok final) :
    ∃ next, steps next (some token.kind) behind = .ok final := by
  induction front generalizing state before with
  | nil =>
    obtain ⟨next, -, others⟩ := Except.bind_eq_ok.mp read
    exact ⟨next, others⟩
  | cons first front ih =>
    obtain ⟨next, -, others⟩ := Except.bind_eq_ok.mp read
    exact ih others

/-- A text with a letter behind a blank is no expression, unless the letter is the first one of a
variable or of the word `calc`. -/
theorem not_isExpression_of_blank_letter {text : String} {front behind : List Char} {c : Char}
    (spelled : text.toList = front ++ ' ' :: c :: behind) (letter : isWordChar c)
    (other : c ≠ 'v' ∧ c ≠ 'c') : isExpression text = false := by
  refine Bool.eq_false_iff.2 fun accepted => ?_
  obtain ⟨tokens, scanned, checked⟩ := exists_tokens_of_isExpression accepted
  obtain ⟨whole, scanned⟩ := scanAt_eq_ok_iff.mp scanned
  obtain ⟨before, blank, after, first, last, rfl, cut, -, behinds⟩ :=
    exists_token_of_char (whole.trans spelled)
  have isBlank := scanned.spelled blank (by simp)
  rw [cut] at isBlank
  obtain ⟨kind, rfl⟩ := isBlank.of_blank_mem
  cases after with
  | nil => simp at behinds
  | cons unit rest =>
    have isUnit := scanned.spelled unit (by simp)
    obtain ⟨d, letters, starts⟩ := List.exists_cons_of_ne_nil isUnit.ne_nil
    obtain ⟨rfl, -⟩ : d = c ∧ _ := by simpa [starts] using behinds
    rw [starts] at isUnit
    have isUnit : unit.kind = .unit := by
      rcases isUnit.of_wordChar letter with same | same | same
      · exact same
      · rw [same] at isUnit
        exact absurd isUnit.first_of_customProperty other.1
      · exact absurd (List.cons.inj same).1 other.2
    -- A unit that does not directly follow its number is refused.
    obtain ⟨_, read, -⟩ := Except.bind_eq_ok.mp checked
    obtain ⟨state, read⟩ := exists_steps_behind read
    obtain ⟨_, step, -⟩ := Except.bind_eq_ok.mp read
    simp [Calc.step, isUnit, checkUnit, kind] at step

/-! ## Blanks -/

/-- A blank that belongs to an operator: in front of it, with another blank behind it, or behind
it. -/
def BesideOperator (front behind : List Char) : Prop :=
  (∃ (operator : BinaryOperator) (rest : List Char), behind = operator.char :: ' ' :: rest) ∨
    ∃ (operator : BinaryOperator) (start : List Char), front = start ++ [operator.char]

theorem BesideOperator.inside {front behind : List Char} (beside : BesideOperator front behind)
    (before after : List Char) : BesideOperator (before ++ front) (behind ++ after) := by
  rcases beside with ⟨operator, rest, rfl⟩ | ⟨operator, start, rfl⟩
  · exact .inl ⟨operator, rest ++ after, rfl⟩
  · exact .inr ⟨operator, before ++ start, (List.append_assoc ..).symm⟩

mutual
theorem Operand.besideOperator {front behind : List Char} :
    (o : Operand) → o.written = front ++ ' ' :: behind → BesideOperator front behind
  | .number value unit, spelled => by
    have blank : ' ' ∈ (Operand.number value unit).written := by simp [spelled]
    rw [Operand.written, List.mem_append] at blank
    rcases blank with blank | blank
    · exact absurd (value.chars_written _ blank) (by decide)
    · cases unit with
      | none => cases blank
      | some unit => exact absurd (unit.isWord _ blank) (by decide)
  | .lookup name, spelled => by
    have blank : ' ' ∈ (Operand.lookup name).written := by simp [spelled]
    have other : ' ' ∉ name.chars := fun there => absurd (name.isName _ there) (by decide)
    simp [Operand.written, VariableName.call, other] at blank
  | .group named inner, spelled => by
    rw [Operand.written, List.append_assoc] at spelled
    rcases Text.append_eq_append_cons spelled with ⟨_, opens, -⟩ | ⟨middle, rfl, others⟩
    · have blank : ' ' ∈ opener named := by simp [opens]
      cases named <;> simp [opener] at blank
    · rcases Text.append_eq_append_cons others with ⟨rest, inside, rfl⟩ | ⟨_, -, closes⟩
      · exact (Expression.besideOperator inner inside).inside (opener named) [')']
      · have blank : ' ' ∈ [')'] := by simp [closes]
        simp at blank

/-- Every blank of an expression belongs to an operator. -/
theorem Expression.besideOperator {front behind : List Char} :
    (e : Expression) → e.written = front ++ ' ' :: behind → BesideOperator front behind
  | .operand only, spelled => Operand.besideOperator only spelled
  | .binary left operator right, spelled => by
    have other : operator.char ≠ ' ' := by cases operator <;> decide
    rw [Expression.written, List.append_assoc] at spelled
    rcases Text.append_eq_append_cons spelled with ⟨rest, inside, rfl⟩ | ⟨middle, rfl, others⟩
    · exact (Expression.besideOperator left inside).inside []
        ([' ', operator.char, ' '] ++ right.written)
    -- The first blank of this operator, the second one, or a blank of the operand behind it.
    · cases middle with
      | nil =>
        obtain ⟨-, rfl⟩ := List.cons.inj others
        exact .inl ⟨operator, right.written, rfl⟩
      | cons _ middle =>
        obtain ⟨rfl, sign⟩ := List.cons.inj others
        obtain ⟨last, rfl, blank⟩ := Text.exists_front_of_ne other sign
        cases last with
        | nil => exact .inr ⟨operator, left.written ++ [' '], by simp⟩
        | cons _ last =>
          obtain ⟨rfl, inside⟩ := List.cons.inj blank
          simpa using (Operand.besideOperator right inside).inside
            (left.written ++ [' ', operator.char, ' ']) []
end

/-- A text is no expression when it has a blank that belongs to no operator. -/
theorem not_isExpression_of_blank {text : String} {front behind : List Char}
    (spelled : text.toList = front ++ ' ' :: behind) (stray : ¬ BesideOperator front behind) :
    isExpression text = false := by
  refine Bool.eq_false_iff.2 fun accepted => ?_
  obtain ⟨e, written, -⟩ := exists_expression_of_isExpression accepted
  exact stray (e.besideOperator (written.trans spelled))

end DesignTokens.Calc
