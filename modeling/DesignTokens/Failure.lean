import DesignTokens.Data.Issue
import DesignTokens.Disk.Error
import DesignTokens.Report
import DesignTokens.Token.Kind

/-!
# Failures

Everything that can stop the reading, the resolving and the writing of tokens, by its cause. The
wording of each cause is in one place, `Failure.report?`. A failure without a report comes from
outside, from the disk or from a caller, and stops the program as it is.
-/

namespace DesignTokens

/-- Why token input cannot be loaded. -/
inductive LoadFault where
  | noInput (entry : Path)
  | unsupportedExtension (suffix : String)
  | unreadable (error : DiskError)
  | invalidJson (detail : String)
  | documentNotAnObject
  | inputNotADirectory (entry : Path)
  | orderNotNames
  | setNotDefined (slug : String)
  | setFileNotFound (slug : String)
  | setNotAnObject (slug : String)
  | notATokenOrGroup
  | unknownKind (word : String)
  | noValue
  | invalidValue (kind : TokenKind) (issues : List Issue)
  | duplicateToken (id : String)
  | themesNotAList
  | themeWithoutName
  | duplicateTheme (name : String)
  | selectionNotAnObject (theme : String)
  | unknownStatus (theme set : String) (shown : String)
  | unknownTokenInSet (set id : String)
  deriving DecidableEq

/-- Why settings are refused. -/
inductive ConfigFault where
  | unreadable (error : DiskError)
  | invalidToml (detail : String)
  | unknownFormat (shown : String)
  | unknownScope (shown : String)
  | switchNotBoolean
  deriving DecidableEq

/-- Why a token has no value, or a name or a theme has no token. -/
inductive ResolveFault where
  | invalidColor (literal : String) (token : Option String)
  /-- The chain of tokens being resolved, and at its end one that is in it already. -/
  | cyclic (chain : List String)
  | noSingleValue (kind : TokenKind) (id : String)
  | unknownToken (id : String)
  | unknownTheme (name : String)
  | ambiguous (name : String) (candidates : List String)
  deriving DecidableEq

/-- What can go wrong. -/
inductive Failure where
  | load (fault : LoadFault) (file : Option Path) (token : Option String)
  | config (fault : ConfigFault) (file : Option Path)
  | resolve (fault : ResolveFault)
  /-- A number is to be read or written, and the text for it has no digits, or too many. -/
  | badNumber (text : String)
  /-- A set is asked for by a name that no set has. -/
  | unknownSet (name : String)
  | disk (error : DiskError)
  /-- A file is not UTF-8. -/
  | badEncoding
  /-- A section of the settings is no table. -/
  | sectionNotATable (name : String)
  /-- A path in the settings is no text. -/
  | pathNotText (key : String)
  deriving DecidableEq

/-- A color literal of three digits is followed by a line end, which is no digit for blue. -/
@[match_pattern] abbrev Failure.noDigitForBlue (literal : String) : Failure := .badNumber literal

namespace LoadFault

def message : LoadFault → String
  | .noInput entry => s!"No token input found at {entry.text}"
  | .unsupportedExtension suffix => s!"Unsupported input file extension: {suffix}"
  | .unreadable _ => "Could not read token file"
  | .invalidJson _ => "Invalid JSON"
  | .documentNotAnObject => "Expected a JSON object at the top level"
  | .inputNotADirectory entry => s!"Token input is not a directory: {entry.text}"
  | .orderNotNames => "$metadata.tokenSetOrder must be a list of set names"
  | .setNotDefined slug => s!"Token set '{slug}' is listed but not defined"
  | .setFileNotFound slug => s!"Token set file for '{slug}' not found"
  | .setNotAnObject slug => s!"Token set '{slug}' must be a JSON object"
  | .notATokenOrGroup => "Expected a token or a group of tokens"
  | .unknownKind word => s!"Unknown token type '{word}'"
  | .noValue => "Token has no value"
  | .invalidValue kind _ => s!"Invalid value for {kind.word} token"
  | .duplicateToken id => s!"Duplicate token id '{id}'"
  | .themesNotAList => "$themes must be a list of theme definitions"
  | .themeWithoutName => "Each theme needs a string 'name'"
  | .duplicateTheme name => s!"Duplicate theme '{name}'"
  | .selectionNotAnObject theme => s!"Theme '{theme}' selectedTokenSets must be an object"
  | .unknownStatus theme set shown =>
    s!"Theme '{theme}' gives set '{set}' unknown status {shown}"
  | .unknownTokenInSet set id => s!"Token set '{set}' lists unknown token '{id}'"

/-- The message from underneath, where there is one. -/
def detail? : LoadFault → Option String
  | .unreadable error => some error.text
  | .invalidJson detail => some detail
  | .invalidValue _ issues => some ("\n".intercalate (issues.map (·.text)))
  | _ => none

end LoadFault

namespace ConfigFault

def message : ConfigFault → String
  | .unreadable _ => "Could not read config"
  | .invalidToml _ => "Invalid TOML"
  | .unknownFormat shown => s!"Unknown output format '{shown}' (expected one of: css, json)"
  | .unknownScope shown => s!"Unknown theme scope '{shown}' (expected one of: root, attribute)"
  | .switchNotBoolean => "'clean' and 'strict_names' must be true or false"

def detail? : ConfigFault → Option String
  | .unreadable error => some error.text
  | .invalidToml detail => some detail
  | _ => none

end ConfigFault

namespace ResolveFault

def message : ResolveFault → String
  | .invalidColor literal _ => s!"Invalid color literal: {Text.quoted literal}"
  | .cyclic chain => "Cyclic token reference: " ++ " -> ".intercalate chain
  | .noSingleValue kind id =>
    s!"{kind.word} token '{id}' has no single value; use composition_values()"
  | .unknownToken id => s!"Unknown token id: {Text.quoted id}"
  | .unknownTheme name => s!"Unknown theme: {Text.quoted name}"
  | .ambiguous name candidates =>
    "Reference \x7b" ++ name ++ "\x7d is ambiguous, matching tokens: " ++
      ", ".intercalate candidates

/-- The token that a fault is about, where it says so. -/
def token? : ResolveFault → Option String
  | .invalidColor _ token => token
  | _ => none

end ResolveFault

namespace Failure

/-- The report of a failure that the program words itself. -/
def report? : Failure → Option Report
  | .load fault file token => some (Report.located fault.message file token fault.detail?)
  | .config fault file => some (Report.located fault.message file none fault.detail?)
  | .resolve fault => some (Report.located fault.message none fault.token? none)
  | .badNumber _ => none
  | .unknownSet _ => none
  | .disk _ => none
  | .badEncoding => none
  | .sectionNotATable _ => none
  | .pathNotText _ => none

end Failure

end DesignTokens
