import DesignTokens.Text.Quoted
import DesignTokens.Token.Basic

/-!
# Warnings

What is odd about a token library without keeping it from being used.
-/

namespace DesignTokens

/-- What a warning is about. -/
inductive Warning where
  /-- A theme selects a set that there is not. -/
  | unknownSet (theme set : String)
  /-- Several active tokens share a name. References mean the first of them. -/
  | sharedName (name : String) (ids : List String)
  /-- A reference names no active token. -/
  | brokenReference (name : String) (theme : Option String)
  /-- A reference names a bundle of properties. -/
  | bundleReference (name : String) (kind : TokenKind) (id : String)
  /-- Two tokens want the same place in a nested document. -/
  | keyDefinedTwice (path : List String)
  deriving DecidableEq

namespace Warning

/-- The theme of a broken reference. The empty name is not shown. -/
def inTheme : Option String → String
  | none => ""
  | some theme => if theme = "" then "" else s!" in theme {Text.quoted theme}"

def text : Warning → String
  | .unknownSet theme set =>
    s!"Theme {Text.quoted theme} references unknown token set {Text.quoted set}, skipping"
  | .sharedName name ids =>
    s!"Token name {Text.quoted name} is shared by " ++ ", ".intercalate ids ++
      "; references resolve to " ++ ids.headD ""
  | .brokenReference name theme => "Broken reference \x7b" ++ name ++ "\x7d" ++ inTheme theme
  | .bundleReference name kind id =>
    "Reference \x7b" ++ name ++ "\x7d points at " ++ kind.word ++ " token " ++ id ++
      ", which has no single value"
  | .keyDefinedTwice path =>
    "JSON key " ++ ".".intercalate path ++ " is defined twice, keeping the later value"

end Warning

end DesignTokens
