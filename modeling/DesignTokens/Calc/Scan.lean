import DesignTokens.Calc.Token
import DesignTokens.Text.Blank

/-!
# Cutting an expression into tokens

`Calc.scan` reads an expression from left to right. At each place `extent` looks at the next
characters and decides the kind of the token there and how many characters it takes, so every token
is a stretch of the text and nothing between two tokens is lost.
-/

namespace DesignTokens.Calc

/-- A kind, and the number of characters of the token after its first one. A failure holds its
cause and the text it is about. -/
abbrev Extent := Except (ScanFault × List Char) (Kind × Nat)

/-- A number that starts with `c`. -/
def numberExtent (c : Char) (rest : List Char) : Extent :=
  let digits := rest.takeWhile isNumberChar
  if (c :: digits).count '.' > 1 then .error (.unrecognizedToken, c :: digits)
  else .ok (.number, digits.length)

/-- A word that starts with `c`: a unit, a variable, or `calc` with its parenthesis. A word that
starts as a variable does has to be one. -/
def wordExtent (c : Char) (rest : List Char) : Extent :=
  let letters := rest.takeWhile isWordChar
  let word := c :: letters
  if ['v', 'a', 'r'].isPrefixOf word then
    match variableName? (rest.drop 2) with
    | some (name, _) => .ok (.customProperty, name.length + 6)
    | none => .error (.invalidVariable, (c :: rest).takeWhile (!Text.isBlank ·))
  else if word = ['c', 'a', 'l', 'c'] ∧ (rest.drop letters.length).head? = some '(' then
    .ok (.opening, 4)
  else .ok (.unit, letters.length)

/-- The token that starts with `c`. A hyphen is the sign of a number when the number follows at
once, and an operator otherwise. -/
def extent (c : Char) (rest : List Char) : Extent :=
  if c = ' ' then .ok (.blank, 0)
  else if c = '-' then
    match rest.head? with
    | none => .ok (.operator, 0)
    | some d =>
      if d = '-' then .error (.invalidNegativeOperator, ['-', '-'])
      else if isNumberChar d then numberExtent c rest
      else .ok (.operator, 0)
  else if isNumberChar c then numberExtent c rest
  else if c = '+' ∨ c = '*' ∨ c = '/' then .ok (.operator, 0)
  else if c = '(' then .ok (.opening, 0)
  else if c = ')' then .ok (.closing, 0)
  else if isWordChar c then wordExtent c rest
  else .error (.unrecognizedCharacter, [c])

/-- The tokens of a text that stands at offset `pos`. -/
def scanAt (pos : Nat) (text : List Char) : Except Error (List Token) :=
  match text with
  | [] => .ok []
  | c :: rest =>
    match extent c rest with
    | .error (fault, fragment) => .error ⟨.scan fault, fragment, pos⟩
    | .ok (kind, n) => do
      let tokens ← scanAt (pos + n + 1) (rest.drop n)
      return ⟨kind, c :: rest.take n, pos⟩ :: tokens
termination_by text.length
decreasing_by simp only [List.length_drop, List.length_cons]; omega

/-- The tokens of an expression. -/
def scan (text : List Char) : Except Error (List Token) :=
  scanAt 0 text

end DesignTokens.Calc
