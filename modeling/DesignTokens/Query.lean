import DesignTokens.Rendering

/-!
# Questions to a library

The questions that a reader of a token library may put, and their answers. `Query.inquiry` says how
each question is worked out.
-/

namespace DesignTokens

/-- A question to a library. What is asked about active tokens is asked under a theme, or without
one. -/
inductive Query where
  | everything
  | token (id : String)
  | named (name : String) (under : Option String)
  | active (under : Option String)
  | shared (under : Option String)
  | theme (name : String)
  | tokenSet (name : String)
  | tokensInSet (name : String)
  | resolve (text : String) (method : Method) (under : Option String)
  | value (id : String) (method : Method) (nested : Bool) (under : Option String)
  | cssValue (id : String) (method : Method) (under : Option String)
  | properties (id : String) (method : Method) (under : Option String)
  | render (format : String) (scope : ThemeScope)
  deriving DecidableEq

/-- The answer to a question. -/
inductive Answer where
  | everything (tokens : List Token) (sets : List TokenSet) (themes : List Theme)
  | token (token : Token)
  | named (token : Option Token)
  | tokens (tokens : List Token)
  | shared (names : NameIndex)
  | theme (theme : Theme)
  | tokenSet (set : TokenSet)
  | text (text : String)
  /-- The properties of a bundle, or nothing for a token that is none. -/
  | properties (properties : Option (Entries String))
  | files (files : Entries String)
  deriving DecidableEq

namespace Query

/-- How a question is worked out. -/
def inquiry (library : Library) : Query → Inquiry Answer
  | .everything => return .everything library.tokens library.sets library.themes
  | .token id => return .token (← Inquiry.lift (library.lookup id))
  | .named name under => return .named (← Inquiry.named under name)
  | .active under => return .tokens (← Inquiry.activeTokens under)
  | .shared under => return .shared (← Inquiry.sharedNames under)
  | .theme name => return .theme (← Inquiry.lift (library.theme name))
  | .tokenSet name => return .tokenSet (← Inquiry.lift (library.tokenSet name))
  | .tokensInSet name => return .tokens (← Inquiry.lift (library.tokensInSet name))
  | .resolve text method under => do
    return .text (← (library.substitution method under).resolve text)
  | .value id method nested under => do
    let token ← Inquiry.lift (library.lookup id)
    return .text (← (library.substitution method under).value nested token)
  | .cssValue id method under => do
    let token ← Inquiry.lift (library.lookup id)
    return .text (← (library.substitution method under).cssValue token)
  | .properties id method under => do
    let token ← Inquiry.lift (library.lookup id)
    match token.value with
    | .bundle bundle =>
      return .properties (some (← (library.substitution method under).properties token bundle))
    | _ => return .properties none
  | .render format scope => do
    let format ← Inquiry.lift (Format.ofName format)
    return .files (← Rendering.files library format scope)

end Query

end DesignTokens
