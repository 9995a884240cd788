import DesignTokens.Substitution

/-!
# Stylesheets

A stylesheet declares a custom property for every token with a single value, all of them in one
block under a selector, and a class for every bundle of properties. Both keep the order of the
tokens.
-/

namespace DesignTokens

/-- A name with a value. -/
structure Declaration where
  name : String
  value : String
  deriving DecidableEq

/-- A class with its declarations. -/
structure ClassRule where
  name : String
  declarations : List Declaration
  deriving DecidableEq

/-- What a token adds to a stylesheet. -/
inductive Contribution where
  | customProperty (declaration : Declaration)
  | rule (rule : ClassRule)
  deriving DecidableEq

/-- The custom properties under a selector, and the classes. -/
structure Stylesheet where
  selector : String
  customProperties : List Declaration
  rules : List ClassRule
  deriving DecidableEq

namespace Contribution

/-- What a token adds. -/
def ofToken (s : Substitution) (token : Token) : Inquiry Contribution :=
  match token.value with
  | .bundle bundle => do
    let properties ← s.properties token bundle
    return .rule ⟨kebab token.name, properties.map fun (name, value) => ⟨kebab name, value⟩⟩
  | _ => do
    let value ← s.cssValue token
    return .customProperty ⟨kebab token.name, value⟩

def declaration? : Contribution → Option Declaration
  | .customProperty found => some found
  | .rule _ => none

def rule? : Contribution → Option ClassRule
  | .customProperty _ => none
  | .rule found => some found

end Contribution

namespace Stylesheet

/-- The line at the top of every stylesheet. -/
def header : String := "/* Generated by figtok - do not edit */"

/-- The selector of all custom properties of a page. -/
def rootSelector : String := ":root"

/-- The stylesheet of some contributions. -/
def ofContributions (selector : String) (contributions : List Contribution) : Stylesheet :=
  ⟨selector, contributions.filterMap (·.declaration?), contributions.filterMap (·.rule?)⟩

/-- The stylesheet of some tokens. -/
def ofTokens (s : Substitution) (selector : String) (tokens : List Token) : Inquiry Stylesheet := do
  return ofContributions selector (← tokens.mapM (Contribution.ofToken s))

/-- The lines of a block. -/
def block (opening : String) (declarations : List String) : List String :=
  (opening ++ " \x7b") :: declarations ++ ["\x7d"]

def customPropertyLine (d : Declaration) : String :=
  s!"  --{d.name}: {d.value};"

def propertyLine (d : Declaration) : String :=
  s!"  {d.name}: {d.value};"

/-- The lines of the custom properties. Without any there is no block. -/
def customPropertyLines (sheet : Stylesheet) : List String :=
  if sheet.customProperties.isEmpty then []
  else block sheet.selector (sheet.customProperties.map customPropertyLine) ++ [""]

/-- The lines of a class. -/
def ruleLines (rule : ClassRule) : List String :=
  block ("." ++ rule.name) (rule.declarations.map propertyLine) ++ [""]

/-- The lines of a stylesheet. An empty line follows the header and every block. -/
def lines (sheet : Stylesheet) : List String :=
  [header, ""] ++ sheet.customPropertyLines ++ sheet.rules.flatMap ruleLines

/-- The text of a stylesheet. -/
def text (sheet : Stylesheet) : String :=
  "\n".intercalate sheet.lines

end Stylesheet

end DesignTokens
