import DesignTokens.Text.Quoted

/-!
# Tokens of calc expressions

The body of a CSS `calc()` is read as a flat list of tokens. Blanks are tokens too, since CSS asks
for blanks around `+` and `-`. An error names its cause, the text that it is about, and the place of
that text.
-/

namespace DesignTokens.Calc

/-- What a token is. -/
inductive Kind where
  | number
  | unit
  | customProperty
  | operator
  /-- An opening parenthesis, by itself or after `calc`. -/
  | opening
  | closing
  | blank
  deriving DecidableEq

/-- The name of a kind in listings. -/
def Kind.name : Kind → String
  | .number => "number"
  | .unit => "unit"
  | .customProperty => "variable"
  | .operator => "operator"
  | .opening => "lparen"
  | .closing => "rparen"
  | .blank => "whitespace"

def Kind.all : List Kind :=
  [.number, .unit, .customProperty, .operator, .opening, .closing, .blank]

/-- The kind of a name in listings. -/
def Kind.ofName? (name : String) : Option Kind :=
  Kind.all.find? (·.name == name)

/-- A piece of an expression and its offset in characters. A token that does not come from a text
may be anywhere. -/
structure Token where
  kind : Kind
  text : List Char
  pos : Int
  deriving DecidableEq

/-- Why an expression cannot be cut into tokens. -/
inductive ScanFault where
  | unrecognizedCharacter
  /-- A number with two points. -/
  | unrecognizedToken
  | invalidVariable
  /-- Two hyphens in a row. -/
  | invalidNegativeOperator
  deriving DecidableEq

/-- Why a list of tokens is no arithmetic expression. -/
inductive CheckFault where
  | mismatchedParentheses
  | noOperators
  | invalidSyntax
  /-- A number that ends in a point. -/
  | invalidNumber
  /-- A unit in a divisor. -/
  | invalidDivisor
  | divisionByZero
  | multiplicationWithUnits
  | incompleteExpression
  | invalidBlank
  | invalidVariable
  deriving DecidableEq

/-- The cause of an error. -/
inductive Fault where
  | scan (fault : ScanFault)
  | check (fault : CheckFault)
  deriving DecidableEq

/-- The name of a cause in messages. -/
def Fault.name : Fault → String
  | .scan .unrecognizedCharacter => "UnrecognizedCharacter"
  | .scan .unrecognizedToken => "UnrecognizedToken"
  | .scan .invalidVariable => "InvalidVariable"
  | .scan .invalidNegativeOperator => "InvalidNegativeOperator"
  | .check .mismatchedParentheses => "MismatchedParentheses"
  | .check .noOperators => "NoOperators"
  | .check .invalidSyntax => "InvalidSyntax"
  | .check .invalidNumber => "InvalidNumber"
  | .check .invalidDivisor => "InvalidDivisionRHS"
  | .check .divisionByZero => "DivisionByZero"
  | .check .multiplicationWithUnits => "MultiplicationWithUnits"
  | .check .incompleteExpression => "IncompleteExpression"
  | .check .invalidBlank => "InvalidWhitespace"
  | .check .invalidVariable => "InvalidVariable"

/-- A cause, the text it is about, and the offset of that text. -/
structure Error where
  fault : Fault
  fragment : List Char
  pos : Int
  deriving DecidableEq

def Error.message (e : Error) : String :=
  s!"{e.fault.name}: {Text.quoted (String.ofList e.fragment)} at {e.pos}"

/-! ## Classes of characters -/

def isDigit (c : Char) : Bool := '0' ≤ c && c ≤ '9'

/-- A character of a number after its sign. -/
def isNumberChar (c : Char) : Bool := isDigit c || c == '.'

def isLetter (c : Char) : Bool := 'a' ≤ c && c ≤ 'z' || 'A' ≤ c && c ≤ 'Z'

/-- A character of a unit, or of the word in front of a parenthesis. -/
def isWordChar (c : Char) : Bool := isLetter c || c == '%'

/-- A character of a variable's name after its two hyphens. -/
def isNameChar (c : Char) : Bool := isLetter c || isDigit c || c == '_' || c == '-'

/-- What follows the word `var` of a variable: the name between `(--` and `)`, and the text after
the closing parenthesis. -/
def variableName? : List Char → Option (List Char × List Char)
  | '(' :: '-' :: '-' :: rest =>
    let name := rest.takeWhile isNameChar
    match rest.dropWhile isNameChar with
    | ')' :: after => if name.isEmpty then none else some (name, after)
    | _ => none
  | _ => none

end DesignTokens.Calc
