import DesignTokens.Text.LowerCase

/-!
# Kebab case

A dotted token name becomes a CSS identifier. The name is cut into words, every word is written in
lower case, and the words are joined by hyphens.

A word ends at a dot, an underscore, a hyphen or a blank, which are dropped. A word also ends where
a capital follows a small letter, and before the last capital of a row of capitals when a small
letter follows it. The letters meant are those of ASCII. A digit never starts a word.
-/

namespace DesignTokens

namespace Kebab

def isSeparator (c : Char) : Bool :=
  c == '.' || c == '_' || c == '-' || c == ' '

def isSmall (c : Char) : Bool := 'a' ≤ c && c ≤ 'z'

def isCapital (c : Char) : Bool := 'A' ≤ c && c ≤ 'Z'

/-- Whether a word ends between `c` and the characters after it. -/
def endsWord (c : Char) : List Char → Bool
  | [] => false
  | d :: rest => isCapital d && (isSmall c || isCapital c && rest.head?.any isSmall)

/-- The text between one cut and the next. Two separators in a row leave an empty segment. -/
def segments : List Char → List (List Char)
  | [] => [[]]
  | c :: rest =>
    if isSeparator c then [] :: segments rest
    else
      match segments rest with
      | [] => [[c]]
      | segment :: others =>
        if endsWord c rest then [c] :: segment :: others else (c :: segment) :: others

/-- The words of a name. -/
def words (name : List Char) : List (List Char) :=
  (segments name).filter (!·.isEmpty)

end Kebab

/-- A name in kebab case. -/
def kebab (name : String) : String :=
  String.ofList (['-'].intercalate ((Kebab.words name.toList).map Text.lower))

/-- A look-up of the custom property that a name stands for. -/
def variableCall (name : String) : String :=
  "var(--" ++ kebab name ++ ")"

example : kebab "text.headings.h1.fontSize" = "text-headings-h1-font-size" := by decide +kernel
example : kebab "HTMLParser" = "html-parser" := by decide +kernel

end DesignTokens
