import DesignTokens.Proofs.Calc.Language

/-!
# Errors are reported as early as possible

`Calc.check` reads its tokens from left to right and reports the first one that it refuses
(`refusal?`). No error could be reported earlier, and no report could be taken back:

* the tokens in front of the refused one begin an accepted list (`viable_of_advance`), because
  whatever is open can be completed (`exists_completion`);
* the error depends on these tokens, the refused one and the one behind it only
  (`refusal?_of_prefix`).

The one exception is a blank at the end that lacks nothing but a token behind it (`LacksNext`): with
it the tokens still begin an accepted list.
-/

namespace DesignTokens.Calc

/-! ## Reading up to a token -/

/-- The kind of the last token, or the one in front of all tokens. -/
def lastKind? (before : Option Kind) (tokens : List Token) : Option Kind :=
  tokens.foldl (fun _ token => some token.kind) before

/-- Reads some tokens when the token behind them is of the kind `after`. -/
def advance (after : Option Kind) (state : State) (before : Option Kind) :
    List Token → Except Error State
  | [] => .ok state
  | token :: rest => do
    let next ← step state token before ((rest.head?.map (·.kind)).or after)
    advance after next (some token.kind) rest

/-- The index of the first token that is refused, and the error about it. -/
def refusalFrom? (state : State) (before : Option Kind) : List Token → Option (Nat × Error)
  | [] => none
  | token :: rest =>
    match step state token before (rest.head?.map (·.kind)) with
    | .error e => some (0, e)
    | .ok next =>
      (refusalFrom? next (some token.kind) rest).map fun found => (found.1 + 1, found.2)

/-- The index of the token at which a check stops, if it does not come to the end, and the error. -/
def refusal? (tokens : List Token) : Option (Nat × Error) :=
  refusalFrom? .start none tokens

/-- Some accepted list begins with the tokens. -/
def Viable (tokens : List Token) : Prop :=
  ∃ behind, check (tokens ++ behind) = .ok ()

section Advance

variable {state next : State} {before after : Option Kind} {front behind : List Token}

/-- Tokens are read one part after another. -/
theorem advance_append :
    advance after state before (front ++ behind) =
      advance ((behind.head?.map (·.kind)).or after) state before front >>= fun next =>
        advance after next (lastKind? before front) behind := by
  induction front generalizing state before with
  | nil => rfl
  | cons token rest ih =>
    have ahead : ((rest ++ behind).head?.map (·.kind)).or after =
        (rest.head?.map (·.kind)).or ((behind.head?.map (·.kind)).or after) := by
      cases rest <;> rfl
    rw [List.cons_append, advance, advance, ahead]
    cases step state token before _ with
    | error e => rfl
    | ok next => exact ih

theorem advance_none : advance none state before front = steps state before front := by
  induction front generalizing state before with
  | nil => rfl
  | cons token rest ih => simp only [advance, steps, Option.or_none, ih]

theorem steps_append :
    steps state before (front ++ behind) =
      advance (behind.head?.map (·.kind)) state before front >>= fun next =>
        steps next (lastKind? before front) behind := by
  simp only [← advance_none, advance_append, Option.or_none]

/-- Reading stops at a token when the tokens in front of it are read and it is refused. -/
theorem refusalFrom?_eq_some_iff {tokens : List Token} {k : Nat} {e : Error} :
    refusalFrom? state before tokens = some (k, e) ↔
      ∃ front token behind next, tokens = front ++ token :: behind ∧ front.length = k ∧
        advance (some token.kind) state before front = .ok next ∧
        step next token (lastKind? before front) (behind.head?.map (·.kind)) = .error e := by
  constructor
  · intro refused
    induction tokens generalizing state before k with
    | nil => cases refused
    | cons token rest ih =>
      rw [refusalFrom?] at refused
      cases read : step state token before (rest.head?.map (·.kind)) with
      | error e' =>
        rw [read] at refused
        cases refused
        exact ⟨[], token, rest, state, rfl, rfl, rfl, read⟩
      | ok middle =>
        rw [read] at refused
        obtain ⟨⟨k, e'⟩, found, same⟩ := Option.map_eq_some_iff.1 refused
        cases same
        obtain ⟨front, other, behind, next, rfl, rfl, advanced, stopped⟩ := ih found
        refine ⟨token :: front, other, behind, next, rfl, rfl, ?_, stopped⟩
        have ahead : (front ++ other :: behind).head?.map (·.kind) =
            (front.head?.map (·.kind)).or (some other.kind) := by
          cases front <;> rfl
        rw [advance, ← ahead, read]
        exact advanced
  · rintro ⟨front, token, behind, next, rfl, rfl, advanced, stopped⟩
    induction front generalizing state before with
    | nil =>
      cases advanced
      rw [List.nil_append, refusalFrom?]
      simp only [lastKind?, List.foldl_nil] at stopped
      rw [stopped]
      rfl
    | cons first front ih =>
      have ahead : (front ++ token :: behind).head?.map (·.kind) =
          (front.head?.map (·.kind)).or (some token.kind) := by
        cases front <;> rfl
      obtain ⟨middle, read, advanced⟩ := Except.bind_eq_ok.1 advanced
      rw [List.cons_append, refusalFrom?, ahead, read]
      simp only [ih advanced stopped]
      rfl

theorem steps_eq_error_iff {tokens : List Token} {e : Error} :
    steps state before tokens = .error e ↔ ∃ k, refusalFrom? state before tokens = some (k, e) := by
  induction tokens generalizing state before with
  | nil => exact ⟨nofun, nofun⟩
  | cons token rest ih =>
    rw [steps, refusalFrom?]
    cases step state token before (rest.head?.map (·.kind)) with
    | error e' =>
      constructor
      · intro same
        cases same
        exact ⟨0, rfl⟩
      · rintro ⟨k, same⟩
        cases same
        rfl
    | ok next =>
      refine ih.trans ?_
      constructor
      · rintro ⟨k, found⟩
        exact ⟨k + 1, Option.map_eq_some_iff.2 ⟨(k, e), found, rfl⟩⟩
      · rintro ⟨k, found⟩
        obtain ⟨_, behind, same⟩ := Option.map_eq_some_iff.1 found
        cases same
        exact ⟨_, behind⟩

theorem check_of_refusal {tokens : List Token} {k : Nat} {e : Error}
    (refused : refusal? tokens = some (k, e)) : check tokens = .error e := by
  rw [check, steps_eq_error_iff.2 ⟨k, refused⟩]
  rfl

theorem exists_steps_of_no_refusal {tokens : List Token} (none : refusal? tokens = none) :
    ∃ final, steps .start .none tokens = .ok final := by
  cases read : steps .start .none tokens with
  | ok final => exact ⟨final, rfl⟩
  | error e =>
    obtain ⟨k, refused⟩ := steps_eq_error_iff.1 read
    rw [refusal?, refused] at none
    cases none

end Advance

/-! ## What a step leaves open -/

/-- Where no operand is wanted, there is something for a blank to stand behind. -/
def Ready (state : State) (before : Option Kind) : Prop :=
  state.current.wantsOperand = false → ∃ b ∈ before, b ≠ .opening

section Step

variable {state next : State} {token : Token} {before after after' : Option Kind}
  {front : List Token}

/-- The token behind a token does not matter, as long as it may stand there. -/
theorem step_of_joins (read : step state token before after = .ok next)
    (joins : Joins (some token.kind) after') : step state token before after' = .ok next := by
  unfold step at read ⊢
  cases kind : token.kind <;> simp only [kind] at read joins ⊢ <;> try exact read
  case blank =>
    obtain ⟨a, rfl, notClosing⟩ := joins.2 rfl
    unfold checkBlank at read ⊢
    split at read
    · next b _ =>
      split at read
      · cases read
      · next misplaced =>
        simp only [not_or] at misplaced
        simp only [misplaced, notClosing, or_self, if_false, read]
    · cases read
  case operator =>
    have blanks := joins.1 rfl
    unfold checkOperator at read ⊢
    split at read
    · cases read
    · split at read
      · cases read
      · next wants notBlank =>
        split at read
        · cases read
        · have stands : ¬ (after'.any (· ≠ .blank)) = true := by
            cases after' with
            | none => nofun
            | some a => simp [blanks a rfl]
          rw [if_neg wants, if_neg notBlank, if_neg stands, read]

/-- A blank is refused for its place only. -/
theorem error_of_blank {e : Error} (isBlank : token.kind = .blank)
    (stopped : step state token before after = .error e) : e = token.error .invalidBlank := by
  simp only [step, isBlank, checkBlank] at stopped
  split at stopped
  · split at stopped
    · exact (Except.error.inj stopped).symm
    · cases stopped
  · exact (Except.error.inj stopped).symm

/-- A refusal at the end stays one whatever follows, unless a blank lacks a token behind it. -/
theorem step_of_last {e : Error} (stopped : step state token before none = .error e)
    (ended : token.kind = .blank → ∀ b ∈ before, b = .blank ∨ b = .opening) :
    step state token before after = .error e := by
  have blank (isBlank : token.kind = .blank) : e = token.error .invalidBlank :=
    error_of_blank isBlank stopped
  unfold step at stopped ⊢
  cases kind : token.kind <;> simp only [kind] at stopped ended ⊢ <;> try exact stopped
  case blank =>
    rw [blank kind]
    unfold checkBlank
    split
    · next b a => exact if_pos ((ended trivial b rfl).imp_right Or.inl)
    · rfl
  case operator =>
    unfold checkOperator at stopped ⊢
    split at stopped
    · next wants => rw [if_pos wants, stopped]
    · next wants =>
      split at stopped
      · next notBlank => rw [if_neg wants, if_pos notBlank, stopped]
      · cases stopped

theorem ready_of_step (read : step state token before after = .ok next) :
    Ready next (some token.kind) := by
  intro full
  refine ⟨token.kind, rfl, fun opening => ?_⟩
  simp only [step, opening, checkOpening] at read
  split at read
  · cases read
    cases full
  · cases read

theorem ready_of_advance (ready : Ready state before)
    (read : advance after state before front = .ok next) :
    Ready next (lastKind? before front) := by
  induction front generalizing state before with
  | nil =>
    cases read
    exact ready
  | cons token rest ih =>
    obtain ⟨middle, first, behind⟩ := Except.bind_eq_ok.1 read
    exact ih (ready_of_step first) behind

theorem advance_of_joins (read : advance after state before front = .ok next)
    (joins : Joins (lastKind? before front) after') :
    advance after' state before front = .ok next := by
  induction front generalizing state before with
  | nil => exact read
  | cons token rest ih =>
    obtain ⟨middle, first, behind⟩ := Except.bind_eq_ok.1 read
    refine Except.bind_eq_ok.2 ⟨middle, ?_, ih behind joins⟩
    cases rest with
    | nil => exact step_of_joins first joins
    | cons _ _ => exact first

end Step

/-! ## Completion -/

/-- Reading the tokens ends with one whole expression in which there is an operator. -/
def Completes (state : State) (before : Option Kind) (tokens : List Token) : Prop :=
  ∃ final, steps state before tokens = .ok final ∧ final.outer = [] ∧
    final.current.last ≠ some .operator ∧ final.operatorSeen = true

/-- Tokens that complete an expression. -/
def completing : Kind → Token
  | .number => ⟨.number, ['1'], 0⟩
  | .operator => ⟨.operator, ['+'], 0⟩
  | .closing => ⟨.closing, [')'], 0⟩
  | kind => ⟨kind, [' '], 0⟩

section Completion

variable {state : State} {before : Option Kind}

/-- Behind an operand every open parenthesis can be closed. -/
theorem completes_closing (full : state.current.wantsOperand = false)
    (seen : state.operatorSeen = true) :
    Completes state before (List.replicate state.outer.length (completing .closing)) := by
  generalize count : state.outer.length = n
  induction n generalizing state before with
  | zero =>
    refine ⟨state, rfl, List.length_eq_zero_iff.1 count, fun last => ?_, seen⟩
    simp [Scope.wantsOperand, last] at full
  | succ n ih =>
    obtain ⟨⟨opener, scope⟩, outer, stack⟩ := List.exists_cons_of_length_eq_add_one count
    have closed (after : Option Kind) : step state (completing .closing) before after =
        .ok (State.see ⟨scope, outer, state.operatorSeen⟩ .closing) := by
      simp only [Scope.wantsOperand, Bool.or_eq_false_iff, decide_eq_false_iff_not] at full
      simp [step, completing, checkClosing, stack, full]
    have fewer : outer.length = n := by simpa [stack] using count
    have rest : Completes (State.see ⟨scope, outer, state.operatorSeen⟩ .closing)
        (some .closing) (List.replicate n (completing .closing)) := ih rfl seen fewer
    obtain ⟨final, read, whole⟩ := rest
    refine ⟨final, ?_, whole⟩
    rw [List.replicate_succ, steps_cons (closed _)]
    exact read

/-- A token that leads to a state which some tokens complete is completed by them. -/
theorem Completes.cons {next : State} {token : Token} {rest : List Token}
    (read : step state token before (rest.head?.map (·.kind)) = .ok next)
    (completes : Completes next (some token.kind) rest) :
    Completes state before (token :: rest) := by
  obtain ⟨final, behind, whole⟩ := completes
  exact ⟨final, (steps_cons read).trans behind, whole⟩

theorem step_completing_number (wants : state.current.wantsOperand = true)
    (after : Option Kind) :
    step state (completing .number) before after = .ok (state.see .number) := by
  simp [step, completing, checkNumber, wants]

theorem step_completing_operator (full : state.current.wantsOperand = false) :
    step state (completing .operator) (some .blank) (some .blank) =
      .ok { state with current := ⟨some .plus, false, some .operator⟩, operatorSeen := true } := by
  simp [step, completing, checkOperator, full, Operator.ofText, Operator.isAdditive]

/-- Behind an operand comes a sum, and a blank in front of it unless one has been read. -/
theorem exists_sum (ready : Ready state before) (full : state.current.wantsOperand = false) :
    ∃ behind, behind ≠ [] ∧ Joins before (behind.head?.map (·.kind)) ∧
      Completes state before behind := by
  have sum : Completes state (some .blank) (completing .operator :: completing .blank ::
      completing .number :: List.replicate state.outer.length (completing .closing)) := by
    refine .cons (step_completing_operator full) (.cons (step_blank ?_ ?_ ?_) ?_)
    · decide
    · decide
    · decide
    · exact .cons (step_completing_number rfl _) (completes_closing rfl rfl)
  obtain ⟨b, rfl, notOpening⟩ := ready full
  by_cases blank : b = .blank
  · subst blank
    exact ⟨_, List.cons_ne_nil _ _, ⟨nofun, fun _ => ⟨.operator, rfl, nofun⟩⟩, sum⟩
  · refine ⟨_, List.cons_ne_nil (completing .blank) _, ⟨fun _ _ => ?_, fun same => ?_⟩,
      .cons ?_ sum⟩
    · rintro ⟨⟩
      rfl
    · exact absurd (Option.some.inj same) blank
    · exact step_blank blank notOpening (by decide)

/-- Whatever has been read can be completed by tokens that may stand behind the last one. -/
theorem exists_completion (ready : Ready state before) :
    ∃ behind, behind ≠ [] ∧ Joins before (behind.head?.map (·.kind)) ∧
      Completes state before behind := by
  cases wants : state.current.wantsOperand with
  | false => exact exists_sum ready wants
  | true =>
    have ready : Ready (state.see .number) (some .number) := fun _ => ⟨_, rfl, nofun⟩
    obtain ⟨behind, -, -, completes⟩ := exists_sum ready rfl
    have number (before : Option Kind) : Completes state before (completing .number :: behind) :=
      .cons (step_completing_number wants _) completes
    by_cases operator : before = some .operator
    · subst operator
      refine ⟨_, List.cons_ne_nil (completing .blank) _, ⟨fun _ _ => ?_, nofun⟩,
        .cons ?_ (number _)⟩
      · rintro ⟨⟩
        rfl
      · exact step_blank (by decide) (by decide) (by decide)
    · refine ⟨_, List.cons_ne_nil _ _, ⟨fun same => absurd same operator, ?_⟩, number _⟩
      exact fun _ => ⟨.number, rfl, nofun⟩

/-- Tokens that are read begin an accepted list. -/
theorem viable_of_advance {next : State} {after : Option Kind} {front : List Token}
    (read : advance after .start none front = .ok next) : Viable front := by
  have ready : Ready .start none := nofun
  obtain ⟨behind, nonempty, joins, final, completes, closed, ended, seen⟩ :=
    exists_completion (ready_of_advance ready read)
  have whole : steps .start none (front ++ behind) = .ok final := by
    rw [steps_append, advance_of_joins read joins]
    exact completes
  have last := List.getLast?_eq_some_getLast (List.append_ne_nil_of_right_ne_nil front nonempty)
  refine ⟨behind, ?_⟩
  rw [check, whole]
  show finish final (front ++ behind) = .ok ()
  simp [finish, closed, last, ended, seen]

end Completion

/-! ## Reports -/

/-- The error is about the last token, a blank that lacks nothing but a token behind it. -/
def LacksNext (tokens : List Token) (k : Nat) (e : Error) : Prop :=
  e.fault = .check .invalidBlank ∧ ∃ front before blank, tokens = front ++ [before, blank] ∧
    k = front.length + 1 ∧ blank.kind = .blank ∧ before.kind ≠ .blank ∧ before.kind ≠ .opening

section Reports

variable {tokens other : List Token} {k : Nat} {e : Error}

/-- Where a blank lacks nothing but a token behind it, the tokens begin an accepted list. -/
theorem LacksNext.viable (lacks : LacksNext tokens k e) (refused : refusal? tokens = some (k, e)) :
    Viable tokens := by
  obtain ⟨-, front, before, blank, rfl, rfl, isBlank, notBlank, notOpening⟩ := lacks
  obtain ⟨_, _, _, next, whole, length, advanced, -⟩ := refusalFrom?_eq_some_iff.1 refused
  rw [List.append_cons] at whole ⊢
  obtain ⟨rfl, last⟩ := List.append_inj whole (by simpa using length.symm)
  cases last
  have stands : step next blank (lastKind? none (front ++ [before])) (some .number) = .ok next := by
    simp [step, isBlank, lastKind?, checkBlank, notBlank, notOpening]
  have read : advance (some .number) .start none ((front ++ [before]) ++ [blank]) = .ok next := by
    rw [advance_append]
    exact Except.bind_eq_ok.2 ⟨next, advanced, Except.bind_eq_ok.2 ⟨next, stands, rfl⟩⟩
  exact viable_of_advance read

/-- The error at a token depends on the tokens up to the one behind it. -/
theorem refusal?_of_prefix (refused : refusal? tokens = some (k, e))
    (ended : ¬ LacksNext tokens k e) (same : tokens.take (k + 2) <+: other) :
    refusal? other = some (k, e) := by
  obtain ⟨front, token, behind, next, rfl, rfl, advanced, stopped⟩ :=
    refusalFrom?_eq_some_iff.1 refused
  obtain ⟨rest, rfl⟩ := same
  have cut : (front ++ token :: behind).take (front.length + 2) =
      front ++ token :: behind.take 1 := by
    rw [List.take_length_add_append]
    rfl
  rw [cut, List.append_assoc]
  refine refusalFrom?_eq_some_iff.2
    ⟨front, token, behind.take 1 ++ rest, next, rfl, rfl, advanced, ?_⟩
  cases behind with
  | cons second others => exact stopped
  | nil =>
    refine step_of_last stopped fun isBlank b last => ?_
    by_contra! stands
    refine ended ⟨error_of_blank isBlank stopped ▸ rfl, ?_⟩
    cases front using List.reverseRecOn with
    | nil => cases last
    | append_singleton front before =>
      have kind : before.kind = b := by simpa [lastKind?] using last
      subst kind
      exact ⟨front, before, token, by simp, by simp, isBlank, stands⟩

end Reports

/-- A check that stops at a token reports the earliest error there is. The tokens in front of the
refused one begin an accepted list, and every list with these tokens, the refused one and the one
behind it is refused there with the same error. Where the refused token is a blank at the end that
lacks nothing but a token behind it, the tokens still begin an accepted list. So they do when all of
them are read, whether or not the end is accepted. -/
theorem earliest_error_is_reported (tokens : List Token) :
    (∀ e, steps .start none tokens = .error e ↔ ∃ k, refusal? tokens = some (k, e)) ∧
    (∀ k e, refusal? tokens = some (k, e) →
      check tokens = .error e ∧ Viable (tokens.take k) ∧
      (LacksNext tokens k e → Viable tokens) ∧
      (¬ LacksNext tokens k e → ∀ other, tokens.take (k + 2) <+: other →
        refusal? other = some (k, e) ∧ check other = .error e)) ∧
    (refusal? tokens = none → Viable tokens) := by
  refine ⟨fun e => steps_eq_error_iff, fun k e refused => ?_, fun none => ?_⟩
  · refine ⟨check_of_refusal refused, ?_, fun lacks => lacks.viable refused, ?_⟩
    · obtain ⟨front, token, behind, next, rfl, rfl, advanced, -⟩ :=
        refusalFrom?_eq_some_iff.1 refused
      rw [List.take_left]
      exact viable_of_advance advanced
    · intro ended other same
      have refused := refusal?_of_prefix refused ended same
      exact ⟨refused, check_of_refusal refused⟩
  · obtain ⟨final, read⟩ := exists_steps_of_no_refusal none
    exact viable_of_advance (advance_none.trans read)

/-- A division by zero in an open group, with a factor behind it. -/
def dividing : List Token :=
  [⟨.opening, ['('], 0⟩, ⟨.number, ['2'], 1⟩, ⟨.blank, [' '], 2⟩, ⟨.operator, ['/'], 3⟩,
    ⟨.blank, [' '], 4⟩, ⟨.number, ['0'], 5⟩, ⟨.blank, [' '], 6⟩, ⟨.operator, ['*'], 7⟩]

/-- The zero is refused whatever follows the blank behind it, and what is in front of it can be
completed. So can what ends in the blank behind the slash, although that is refused as it stands. -/
theorem earliest_error_is_reported_dividing :
    refusal? dividing = some (5, ⟨.check .divisionByZero, ['0'], 5⟩) ∧
      Viable (dividing.take 5) ∧
      (∀ other, dividing.take 7 <+: other →
        refusal? other = some (5, ⟨.check .divisionByZero, ['0'], 5⟩)) ∧
      refusal? (dividing.take 5) = some (4, ⟨.check .invalidBlank, [' '], 4⟩) := by
  have zero : refusal? dividing = some (5, ⟨.check .divisionByZero, ['0'], 5⟩) := by decide +kernel
  have blank : refusal? (dividing.take 5) = some (4, ⟨.check .invalidBlank, [' '], 4⟩) := by
    decide +kernel
  obtain ⟨-, viable, -, fixed⟩ := (earliest_error_is_reported dividing).2.1 _ _ zero
  have ended : ¬ LacksNext dividing 5 ⟨.check .divisionByZero, ['0'], 5⟩ :=
    fun lacks => nomatch lacks.1
  exact ⟨zero, viable, fun other same => (fixed ended other same).1, blank⟩

end DesignTokens.Calc
