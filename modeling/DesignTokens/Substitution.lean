import DesignTokens.Calc.Check
import DesignTokens.Color
import DesignTokens.Inquiry
import DesignTokens.Kebab

/-!
# The values of tokens

A token's value is computed by substituting its references. A `Substitution` says how. With custom
properties, `{a.b}` becomes `var(--a-b)` and is left to the stylesheet. In static form it becomes
the computed value of the token that the name stands for. A name that stands for no token, or for a
bundle of properties, becomes `BROKEN_REF` with a warning, so that one bad reference does not keep
the rest from being written.

Arithmetic is left to CSS: a computed value that is an expression is put into `calc(...)`. Colors
are bare lists of channels inside other values, and get their `rgb(...)` outside of them.

A token that is being computed is on the chain of its references. A reference back into the chain
is a failure. The chain never holds an id twice, so as many open tokens as the library has tokens
are always enough: `room` counts how many more may be opened.
-/

namespace DesignTokens

/-- What a reference becomes. -/
inductive Method where
  /-- A look-up of a custom property. -/
  | customProperties
  /-- The computed value of the token it names. -/
  | static
  deriving DecidableEq

/-- The word that stands where a reference leads nowhere. -/
def brokenWord : String := "BROKEN_REF"

/-- How references are substituted. -/
structure Substitution where
  method : Method
  /-- The theme whose active tokens names stand for. -/
  theme : Option String
  /-- How many tokens may be open at once. -/
  room : Nat
  deriving DecidableEq

/-- The channels of a color literal, as they are written. A fault names the token it is found in. -/
def channelsOf (literal : String) (token : Option String) : Except Failure String :=
  match Channels.ofLiteral literal with
  | .ok channels => .ok channels.text
  | .error .notHexadecimal => .error (.resolve (.invalidColor literal token))
  | .error .noDigitForBlue => .error (.noDigitForBlue literal)

/-- A value, inside `calc(...)` when it is an arithmetic expression. -/
def wrapCalc (value : String) : String :=
  if Calc.isExpression value then "calc(" ++ value ++ ")" else value

namespace ShadowLayer

/-- The color of a layer before its references are substituted. -/
def colorText (layer : ShadowLayer) (token : Option String) : Except Failure String :=
  if isHexLiteral layer.color then (channelsOf layer.color token).map wrapRgb
  else if Reference.occursIn layer.color then .ok (wrapRgb layer.color)
  else .ok layer.color

/-- The word in front of a layer that falls inside. -/
def inset (layer : ShadowLayer) : String :=
  match layer.placement with
  | .inner => "inset "
  | .drop => ""

/-- A layer before its references are substituted. -/
def raw (layer : ShadowLayer) (token : Option String) : Except Failure String := do
  let color ← layer.colorText token
  return s!"{layer.inset}{layer.x}px {layer.y}px {layer.blur}px {layer.spread}px {color}"

end ShadowLayer

namespace Reference

/-- The text of some pieces with a computed text for each reference, computed from first to
last. -/
def substitute (value : String → Inquiry String) : List Piece → Inquiry (List Char)
  | [] => pure []
  | .char c :: rest => do
    let after ← substitute value rest
    return c :: after
  | .reference name :: rest => do
    let here ← value (String.ofList name)
    let after ← substitute value rest
    return here.toList ++ after

/-- A text with a computed text for each of its references. -/
def substituteIn (value : String → Inquiry String) (text : String) : Inquiry String := do
  return String.ofList (← substitute value (pieces text.toList))

end Reference

namespace Substitution

/-- What a reference becomes, when `value` computes the tokens that have a single value. -/
def reference (s : Substitution) (value : Token → Inquiry String) (name : String) :
    Inquiry String :=
  match s.method with
  | .customProperties => pure (variableCall name)
  | .static => do
    match ← Inquiry.named s.theme name with
    | none =>
      Inquiry.leave (.brokenReference name s.theme)
      return brokenWord
    | some token =>
      if token.isBundle then
        Inquiry.leave (.bundleReference name token.kind token.id)
        return brokenWord
      else value token

/-- The value of a token of a single text before arithmetic is wrapped, when `expand` substitutes
references. -/
def plainValue (expand : String → Inquiry String) (token : Token) (nested : Bool) (raw : String) :
    Inquiry String :=
  if Reference.occursIn raw then do
    let value ← expand raw
    if token.kind = .color ∧ nested = false then return wrapRgb value else return value
  else if token.kind = .color ∧ isHexLiteral raw then
    Inquiry.lift (channelsOf raw (some token.id))
  else pure raw

/-- The value of a shadow before arithmetic is wrapped. All layers are laid out first, and their
references are substituted in one pass. -/
def shadowValue (expand : String → Inquiry String) (token : Token) (layers : List ShadowLayer) :
    Inquiry String := do
  let raws ← Inquiry.lift (layers.mapM (·.raw (some token.id)))
  expand (", ".intercalate raws)

/-- The value of a token that is not open yet, when `expand` substitutes references. -/
def openValue (expand : String → Inquiry String) (token : Token) (nested : Bool) :
    Inquiry String := do
  match token.value with
  | .plain raw => return wrapCalc (← plainValue expand token nested raw)
  | .shadow layers => return wrapCalc (← shadowValue expand token layers)
  | .bundle _ => .fail (.resolve (.noSingleValue token.kind token.id))

/-- The value of a token while the tokens of `chain` are open. -/
def valueAt (s : Substitution) (room : Nat) (chain : List String) (nested : Bool) (token : Token) :
    Inquiry String :=
  match room with
  | 0 => .fail (.resolve (.cyclic (chain ++ [token.id])))
  | room + 1 =>
    if token.id ∈ chain then .fail (.resolve (.cyclic (chain ++ [token.id])))
    else
      openValue
        (Reference.substituteIn (s.reference (s.valueAt room (chain ++ [token.id]) true)))
        token nested

/-- A text with its references substituted while the tokens of `chain` are open. -/
def expandAt (s : Substitution) (room : Nat) (chain : List String) (text : String) :
    Inquiry String :=
  Reference.substituteIn (s.reference (s.valueAt room chain true)) text

/-! ## What callers ask for -/

/-- A text with its references substituted. -/
def resolve (s : Substitution) (text : String) : Inquiry String :=
  s.expandAt s.room [] text

/-- The value of a token by itself, or nested in the value of another token. -/
def value (s : Substitution) (nested : Bool) (token : Token) : Inquiry String :=
  s.valueAt s.room [] nested token

/-- A color written as channels, inside `rgb(...)`, and any other value as it is. -/
def wrapColor (kind : TokenKind) (value : String) : String :=
  if kind = .color ∧ isChannelTriplet value then rgbCall value else value

/-- The value of a token as it is written to a file. In static form a color gets its `rgb(...)`
here. With custom properties it stays a bare list, so that other values can put it into a call of
their own. -/
def cssValue (s : Substitution) (token : Token) : Inquiry String := do
  let value ← s.value false token
  match s.method with
  | .static => return wrapColor token.kind value
  | .customProperties => return value

/-- Some properties with their references substituted. -/
def expandProperties (expand : String → Inquiry String) :
    List (String × String) → Inquiry (List (String × String))
  | [] => pure []
  | (name, raw) :: rest => do
    let value ← expand raw
    let others ← expandProperties expand rest
    return (name, value) :: others

/-- The properties of a bundle with their references substituted. -/
def properties (s : Substitution) (token : Token) (bundle : Entries String) :
    Inquiry (Entries String) :=
  expandProperties (s.expandAt s.room [token.id]) bundle

end Substitution

namespace Library

/-- How references are substituted in this library. -/
def substitution (library : Library) (method : Method) (theme : Option String) : Substitution :=
  ⟨method, theme, library.tokens.length⟩

end Library

end DesignTokens
