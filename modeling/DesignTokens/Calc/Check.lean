import DesignTokens.Calc.Scan

/-!
# Which token lists are expressions

`Calc.check` accepts numbers with or without units, variables, the four operators and parentheses.
It looks at the structure and not at values: two units in one product are refused, while a product
of percentages is not understood to be odd.

The tokens are read once, from left to right, with one token of look-back and one of look-ahead.
Each open parenthesis has a `Scope` of its own.
-/

namespace DesignTokens.Calc

/-- The part an operator plays. A token list can hold operators that the scanner never makes. -/
inductive Operator where
  | plus
  | minus
  | times
  | divide
  | other
  deriving DecidableEq

def Operator.ofText : List Char → Operator
  | ['+'] => .plus
  | ['-'] => .minus
  | ['*'] => .times
  | ['/'] => .divide
  | _ => .other

/-- Whether a new additive term starts after the operator. -/
def Operator.isAdditive (operator : Operator) : Bool :=
  operator = .plus || operator = .minus

/-- What is known about the expression inside one pair of parentheses. -/
structure Scope where
  /-- The latest operator. -/
  latest : Option Operator
  /-- Whether a unit has been seen since the latest additive operator. -/
  unitSeen : Bool
  /-- The kind of the latest token that is not blank. -/
  last : Option Kind
  deriving DecidableEq

/-- Nothing has been read. -/
def Scope.empty : Scope := ⟨none, false, none⟩

/-- Whether an operand may come next: at the start, and after an operator. -/
def Scope.wantsOperand (scope : Scope) : Bool :=
  scope.last = none || scope.last = some .operator

/-- The scopes that are open, and whether an operator has been seen anywhere. -/
structure State where
  /-- The innermost scope. -/
  current : Scope
  /-- The open parentheses, innermost first, each with the scope around it. -/
  outer : List (Token × Scope)
  operatorSeen : Bool
  deriving DecidableEq

def State.start : State := ⟨.empty, [], false⟩

/-- Notes a token that is not blank in the innermost scope. -/
def State.see (state : State) (kind : Kind) : State :=
  { state with current := { state.current with last := some kind } }

/-- An error about one token. -/
def Token.error (token : Token) (fault : CheckFault) : Error :=
  ⟨.check fault, token.text, token.pos⟩

/-! ## One token -/

/-- A single blank, between two tokens and not just inside a parenthesis. -/
def checkBlank (state : State) (token : Token) (before after : Option Kind) :
    Except Error State :=
  match before, after with
  | some b, some a =>
    if b = .blank ∨ b = .opening ∨ a = .closing then .error (token.error .invalidBlank)
    else .ok state
  | _, _ => .error (token.error .invalidBlank)

def checkOpening (state : State) (token : Token) : Except Error State :=
  if state.current.wantsOperand then
    .ok ⟨.empty, (token, (state.see .opening).current) :: state.outer, state.operatorSeen⟩
  else .error (token.error .invalidSyntax)

/-- A closing parenthesis ends a scope that holds a whole expression. -/
def checkClosing (state : State) (token : Token) : Except Error State :=
  match state.outer with
  | [] => .error (token.error .mismatchedParentheses)
  | (_, scope) :: outer =>
    if state.current.last = none then .error (token.error .invalidSyntax)
    else if state.current.last = some .operator then .error (token.error .incompleteExpression)
    else .ok (State.see ⟨scope, outer, state.operatorSeen⟩ .closing)

def checkNumber (state : State) (token : Token) : Except Error State :=
  if !state.current.wantsOperand then .error (token.error .invalidSyntax)
  else if token.text.getLast? = some '.' then .error (token.error .invalidNumber)
  else if state.current.latest = some .divide ∧ token.text = ['0'] then
    .error (token.error .divisionByZero)
  else .ok (state.see .number)

/-- Whether a text is one variable. One line end may follow it. -/
def isVariableText : List Char → Bool
  | 'v' :: 'a' :: 'r' :: rest =>
    match variableName? rest with
    | some (_, after) => after = [] || after = ['\n']
    | none => false
  | _ => false

def checkVariable (state : State) (token : Token) : Except Error State :=
  if !state.current.wantsOperand then .error (token.error .invalidSyntax)
  else if !isVariableText token.text then .error (token.error .invalidVariable)
  else .ok (state.see .customProperty)

/-- A unit directly follows its number. A divisor has none, and a product has at most one. -/
def checkUnit (state : State) (token : Token) (before : Option Kind) : Except Error State :=
  if before ≠ some .number then .error (token.error .invalidSyntax)
  else if state.current.latest = some .divide then .error (token.error .invalidDivisor)
  else if state.current.latest = some .times ∧ state.current.unitSeen then
    .error (token.error .multiplicationWithUnits)
  else .ok { state with current := { state.current with unitSeen := true, last := some .unit } }

/-- An operator follows an operand and stands between blanks. A blank that is missing behind it at
the end is reported later, as an unfinished expression. -/
def checkOperator (state : State) (token : Token) (before after : Option Kind) :
    Except Error State :=
  if state.current.wantsOperand then .error (token.error .invalidSyntax)
  else if before ≠ some .blank then .error (token.error .invalidBlank)
  else if after.any (· ≠ .blank) then .error (token.error .invalidBlank)
  else
    let operator := Operator.ofText token.text
    let unitSeen := state.current.unitSeen && !operator.isAdditive
    .ok { state with current := ⟨some operator, unitSeen, some .operator⟩, operatorSeen := true }

/-- Reads one token. `before` and `after` are the kinds of its neighbours. -/
def step (state : State) (token : Token) (before after : Option Kind) : Except Error State :=
  match token.kind with
  | .blank => checkBlank state token before after
  | .opening => checkOpening state token
  | .closing => checkClosing state token
  | .number => checkNumber state token
  | .customProperty => checkVariable state token
  | .unit => checkUnit state token before
  | .operator => checkOperator state token before after

/-! ## All tokens -/

/-- Reads the tokens after the token `before`. -/
def steps (state : State) (before : Option Kind) : List Token → Except Error State
  | [] => .ok state
  | token :: rest => do
    let next ← step state token before (rest.head?.map (·.kind))
    steps next (some token.kind) rest

/-- At the end every parenthesis is closed, the last operator has its operand, and there was an
operator. -/
def finish (state : State) (tokens : List Token) : Except Error Unit :=
  match state.outer with
  | (opener, _) :: _ => .error (opener.error .mismatchedParentheses)
  | [] =>
    match tokens.getLast? with
    | some token =>
      if state.current.last = some .operator then .error (token.error .incompleteExpression)
      else if state.operatorSeen then .ok ()
      else .error ⟨.check .noOperators, tokens.flatMap (·.text), 0⟩
    | none => .error ⟨.check .noOperators, [], 0⟩

/-- Whether the tokens are one expression with at least one operator. -/
def check (tokens : List Token) : Except Error Unit := do
  let state ← steps .start none tokens
  finish state tokens

/-- Scans and checks a text. -/
def read (text : String) : Except Error Unit := do
  check (← scan text.toList)

/-- Whether a text is an arithmetic expression. -/
def isExpression (text : String) : Bool :=
  (read text).isOk

/-- What is wrong with a text as an expression, if anything. -/
def diagnose? (text : String) : Option Error :=
  match read text with
  | .ok () => none
  | .error e => some e

end DesignTokens.Calc
