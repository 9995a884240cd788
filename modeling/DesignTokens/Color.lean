import DesignTokens.Text.DecimalDigit
import DesignTokens.Text.Hexadecimal

/-!
# Color literals

A color is written as the bare list `R, G, B` of its channels, so that a stylesheet can put it into
`rgb(...)` or `rgba(...)`. `Channels.ofLiteral` reads `#RGB` and `#RRGGBB`.
-/

namespace DesignTokens

/-- Red, green and blue, each from 0 to 255. -/
structure Channels where
  red : Nat
  green : Nat
  blue : Nat
  deriving DecidableEq

namespace Channels

/-- The channels as a list with commas. -/
def text (channels : Channels) : String :=
  s!"{channels.red}, {channels.green}, {channels.blue}"

/-- Why a literal is no color. -/
inductive Fault where
  /-- It is not `#` with three or six hexadecimal digits. -/
  | notHexadecimal
  /-- The line end after three digits takes the place of a digit, and none is left for blue. -/
  | noDigitForBlue
  deriving DecidableEq

/-- The text without one line end behind it, and whether there was one. -/
def dropLineEnd (text : List Char) : List Char × Bool :=
  if text.getLast? = some '\n' then (text.dropLast, true) else (text, false)

/-- Reads `#RRGGBB`, or `#RGB` with every digit standing for two. One line end may follow six
digits. -/
def ofLiteral (literal : String) : Except Fault Channels :=
  match literal.toList with
  | '#' :: body =>
    let (digits, ended) := dropLineEnd body
    match digits.mapM Text.hexDigit? with
    | some [r, g, b] =>
      if ended then .error .noDigitForBlue else .ok ⟨17 * r, 17 * g, 17 * b⟩
    | some [r, r', g, g', b, b'] => .ok ⟨16 * r + r', 16 * g + g', 16 * b + b'⟩
    | _ => .error .notHexadecimal
  | _ => .error .notHexadecimal

example : (ofLiteral "#1f0").toOption = some ⟨17, 255, 0⟩ := by decide
example : (ofLiteral "#102030").toOption = some ⟨16, 32, 48⟩ := by decide

end Channels

/-- Whether a value is written as a literal. -/
def isHexLiteral (value : String) : Bool :=
  value.toList.head? == some '#'

/-- A number of one to three decimal digits, and the text after it. -/
def channelNumber? (text : List Char) : Option (List Char) :=
  let digits := text.takeWhile Text.isDecimalDigit
  if 1 ≤ digits.length ∧ digits.length ≤ 3 then some (text.drop digits.length) else none

/-- A comma with one blank, and the text after it. -/
def channelComma? : List Char → Option (List Char)
  | ',' :: ' ' :: rest => some rest
  | _ => none

/-- Whether a value is a list of three channels. One line end may follow it. -/
def isChannelTriplet (value : String) : Bool :=
  let rest := do
    let afterRed ← channelNumber? value.toList
    let afterGreen ← channelNumber? (← channelComma? afterRed)
    channelNumber? (← channelComma? afterGreen)
  rest == some [] || rest == some ['\n']

/-- Whether a value starts as a call of `rgb` or `rgba` does. -/
def startsWithRgb (value : String) : Bool :=
  ['r', 'g', 'b'].isPrefixOf value.toList

/-- A value inside a call of `rgb`. -/
def rgbCall (value : String) : String :=
  "rgb(" ++ value ++ ")"

/-- A value inside a call of `rgb`, unless it is such a call already. -/
def wrapRgb (value : String) : String :=
  if startsWithRgb value then value else rgbCall value

end DesignTokens
