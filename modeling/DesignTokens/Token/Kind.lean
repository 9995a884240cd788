/-!
# Kinds of tokens

A token file names the kind of every token. The kind decides which form the token's value has.
-/

namespace DesignTokens

/-- The kinds of tokens. -/
inductive TokenKind where
  | borderRadius
  | borderWidth
  | boxShadow
  | color
  | composition
  | dimension
  | fontFamily
  | fontSize
  | fontWeight
  | letterSpacing
  | lineHeight
  | opacity
  | sizing
  | spacing
  | typography
  | other
  deriving DecidableEq

/-- The forms of a token's value. -/
inductive Form where
  /-- A single text. -/
  | plain
  /-- A list of shadow layers. -/
  | shadow
  /-- A bundle of properties. -/
  | bundle
  deriving DecidableEq

namespace TokenKind

def all : List TokenKind :=
  [.borderRadius, .borderWidth, .boxShadow, .color, .composition, .dimension, .fontFamily,
   .fontSize, .fontWeight, .letterSpacing, .lineHeight, .opacity, .sizing, .spacing, .typography,
   .other]

/-- The word for a kind in token files. -/
def word : TokenKind → String
  | .borderRadius => "borderRadius"
  | .borderWidth => "borderWidth"
  | .boxShadow => "boxShadow"
  | .color => "color"
  | .composition => "composition"
  | .dimension => "dimension"
  | .fontFamily => "fontFamilies"
  | .fontSize => "fontSizes"
  | .fontWeight => "fontWeights"
  | .letterSpacing => "letterSpacing"
  | .lineHeight => "lineHeights"
  | .opacity => "opacity"
  | .sizing => "sizing"
  | .spacing => "spacing"
  | .typography => "typography"
  | .other => "other"

/-- The family of CSS properties that a kind belongs to. -/
def cssProperty : TokenKind → String
  | .borderRadius => "border-radius"
  | .borderWidth => "border-width"
  | .boxShadow => "box-shadow"
  | .color => "color"
  | .composition => "composition"
  | .dimension => "dimension"
  | .fontFamily => "font-family"
  | .fontSize => "font-size"
  | .fontWeight => "font-weight"
  | .letterSpacing => "letter-spacing"
  | .lineHeight => "line-height"
  | .opacity => "opacity"
  | .sizing => "sizing"
  | .spacing => "spacing"
  | .typography => "typography"
  | .other => "other"

/-- The form of the values of a kind. -/
def form : TokenKind → Form
  | .boxShadow => .shadow
  | .composition | .typography => .bundle
  | _ => .plain

/-- Whether the values of a kind are bundles of properties. -/
def isComposite (kind : TokenKind) : Bool :=
  kind.form = .bundle

/-- The kind of a word in token files. -/
def ofWord? (word : String) : Option TokenKind :=
  all.find? (·.word == word)

theorem mem_all (kind : TokenKind) : kind ∈ all := by
  cases kind <;> decide

/-- Every kind is read back from its word. -/
theorem ofWord?_word (kind : TokenKind) : ofWord? kind.word = some kind := by
  cases kind <;> decide

end TokenKind

end DesignTokens
