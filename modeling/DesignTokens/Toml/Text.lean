import DesignTokens.Text.Hexadecimal
import DesignTokens.Text.Rest
import DesignTokens.Toml.Error

/-!
# Strings, keys and comments in TOML

Every reading step takes something off the front of a text and returns what is left.
-/

namespace DesignTokens.Toml

open DesignTokens.Text

def isBlank (c : Char) : Bool := c == ' ' || c == '\t'

def isBlankOrLineEnd (c : Char) : Bool := isBlank c || c == '\n'

/-- A control character other than the tab. -/
def isControl (c : Char) : Bool := c != '\t' && (c.toNat < 0x20 || c.toNat == 0x7F)

/-- A control character that a text of several lines may not hold. -/
def isControlInLines (c : Char) : Bool := c != '\n' && isControl c

/-- Fails at the first character of a class in `text`, which stands in front of `behind`. -/
def without (p : Char → Bool) (text behind : List Char) : Except Error Unit :=
  match text.dropWhile (!p ·) with
  | [] => .ok ()
  | c :: rest => .error ⟨.foundCharacter c, (c :: rest).length + behind.length⟩

/-! ## Comments -/

/-- Passes over a comment at the front, up to the end of its line. -/
def skipComment (s : List Char) : Except Error (AtMost s) :=
  match s with
  | '#' :: rest => do
    let behind := skip (· != '\n') rest
    without isControl (rest.takeWhile (· != '\n')) behind.1
    return (behind.under '#').atMost
  | s => return .all s

/-- Passes over blanks, line ends and comments. -/
def skipLines (s : List Char) : Except Error (AtMost s) :=
  let blanks := skip isBlankOrLineEnd s
  match after? '#' blanks.1 with
  | some comment => do
    let behind := blanks.andThen (comment.thenAtMost (skip (· != '\n') comment.1))
    without isControl (comment.1.takeWhile (· != '\n')) behind.1
    let left ← skipLines behind.1
    return (behind.thenAtMost left).atMost
  | none => return blanks
termination_by s.length
decreasing_by exact behind.2

/-! ## Strings -/

/-- A character by its code point in `width` hexadecimal digits. -/
def readHex (width : Nat) (s : List Char) : Except Error (List Char × AtMost s) :=
  let digits := s.take width
  match digits.mapM hexDigit? with
  | none => fault .badHexadecimal s
  | some values =>
    if values.length ≠ width then fault .badHexadecimal s
    else
      let code := values.foldl (fun n d => n * 16 + d) 0
      let left := drop width s
      if code ≤ 0xD7FF ∨ 0xE000 ≤ code ∧ code ≤ 0x10FFFF then return ([Char.ofNat code], left)
      else fault .notACharacter left.1

/-- The character that a letter after a backslash stands for. -/
def escape? : Char → Option Char
  | 'b' => some '\x08'
  | 't' => some '\t'
  | 'n' => some '\n'
  | 'f' => some '\x0c'
  | 'r' => some '\r'
  | '"' => some '"'
  | '\\' => some '\\'
  | _ => none

/-- A backslash at the end of a line, with the blanks in front of the line end. -/
def readLineJoin (s : List Char) : Except Error (List Char × AtMost s) :=
  let blanks := skip isBlank s
  if blanks.1.isEmpty then return ([], blanks)
  else
    match after? '\n' blanks.1 with
    | some lineEnd =>
      let left := lineEnd.thenAtMost (skip isBlankOrLineEnd lineEnd.1)
      return ([], blanks.thenAtMost left.atMost)
    | none => fault .badEscape blanks.1

/-- What a backslash in front of `s` stands for. -/
def readEscape (lines : Bool) (s : List Char) : Except Error (List Char × AtMost s) :=
  match s with
  | [] => fault .badEscape []
  | c :: rest =>
    if lines && isBlankOrLineEnd c then readLineJoin (c :: rest)
    else if c = 'u' then
      (readHex 4 rest).map fun (text, left) => (text, (left.under c).atMost)
    else if c = 'U' then
      (readHex 8 rest).map fun (text, left) => (text, (left.under c).atMost)
    else match escape? c with
      | some d => return ([d], (Rest.tail c rest).atMost)
      | none => fault .badEscape rest

/-- The rest of a string with escapes, after its opening quotes. In a string of several lines three
quotes close it. -/
def readBasic (lines : Bool) (s : List Char) : Except Error (List Char × Rest s) :=
  match s with
  | [] => fault .unterminatedString []
  | '"' :: rest =>
    if !lines then return ([], .tail '"' rest)
    else match rest with
      | '"' :: '"' :: behind => return ([], ((Rest.tail '"' behind).under '"').under '"')
      | rest => do
        let (text, left) ← readBasic lines rest
        return ('"' :: text, left.under '"')
  | '\\' :: rest => do
    let (here, after) ← readEscape lines rest
    let (text, left) ← readBasic lines after.1
    return (here ++ text, (after.andThen left).under '\\')
  | c :: rest =>
    if (if lines then isControlInLines c else isControl c) then
      fault (.illegalCharacter c) (c :: rest)
    else do
      let (text, left) ← readBasic lines rest
      return (c :: text, left.under c)
termination_by s.length
decreasing_by
  · exact Nat.lt_succ_self _
  · exact Nat.lt_succ_of_le after.2
  · exact Nat.lt_succ_self _

/-- The rest of a string without escapes on one line, after its opening quote. -/
def readLiteral (s : List Char) : Except Error (List Char × Rest s) :=
  let behind := skip (· != '\'') s
  match after? '\'' behind.1 with
  | none => fault (.expectedText "'") []
  | some rest => do
    let text := s.takeWhile (· != '\'')
    without isControl text behind.1
    return (text, behind.andThen rest)

/-- The text in front of three apostrophes, and the text behind them. -/
def upToTripled? : (s : List Char) → Option (List Char × Rest s)
  | [] => none
  | '\'' :: '\'' :: '\'' :: rest => some ([], ((Rest.tail '\'' rest).under '\'').under '\'')
  | c :: rest => (upToTripled? rest).map fun (text, behind) => (c :: text, behind.under c)

/-- The rest of a string without escapes of several lines, after its opening quotes. -/
def readLiteralLines (s : List Char) : Except Error (List Char × Rest s) :=
  match upToTripled? s with
  | none => fault (.expectedText "'''") []
  | some (text, behind) => do
    without isControlInLines text ('\'' :: '\'' :: '\'' :: behind.1)
    return (text, behind)

/-- Up to two quotes directly behind the three that close a string belong to the string. -/
def moreQuotes (quote : Char) (s : List Char) : List Char × AtMost s :=
  match after? quote s with
  | none => ([], .all s)
  | some first =>
    match after? quote first.1 with
    | none => ([quote], first.atMost)
    | some second => ([quote, quote], (first.andThen second).atMost)

/-- A line end directly behind the opening quotes does not belong to a string of several lines. -/
def skipLineEnd (s : List Char) : AtMost s :=
  match after? '\n' s with
  | some rest => rest.atMost
  | none => .all s

/-- The rest of a string of several lines, after its opening quotes. -/
def readLines (quote : Char) (s : List Char) : Except Error (List Char × Rest s) := do
  let start := skipLineEnd s
  let (text, left) ←
    if quote = '"' then readBasic true start.1 else readLiteralLines start.1
  let (more, behind) := moreQuotes quote left.1
  return (text ++ more, start.andThen (left.thenAtMost behind))

/-! ## Keys -/

/-- A character of a key without quotes. -/
def isBareKeyChar (c : Char) : Bool :=
  'a' ≤ c && c ≤ 'z' || 'A' ≤ c && c ≤ 'Z' || '0' ≤ c && c ≤ '9' || c == '-' || c == '_'

/-- Whether a key may start with the character. -/
def startsKey (c : Char) : Bool :=
  isBareKeyChar c || c == '"' || c == '\''

/-- One part of a key. -/
def readKeyPart (s : List Char) : Except Error (String × Rest s) :=
  match s with
  | [] => fault .invalidKey []
  | c :: rest =>
    if isBareKeyChar c then
      return (String.ofList (c :: rest.takeWhile isBareKeyChar), (skip isBareKeyChar rest).under c)
    else if c = '\'' then do
      let (text, left) ← readLiteral rest
      return (String.ofList text, left.under c)
    else if c = '"' then do
      let (text, left) ← readBasic false rest
      return (String.ofList text, left.under c)
    else fault .invalidKey (c :: rest)

/-- A key of one or more parts with dots between them, and the blanks behind it. -/
def readKey (s : List Char) : Except Error (KeyPath × Rest s) := do
  let (part, left) ← readKeyPart s
  let blanks := left.thenAtMost (skip isBlank left.1)
  match after? '.' blanks.1 with
  | some dot =>
    let next := blanks.andThen (dot.thenAtMost (skip isBlank dot.1))
    let (others, behind) ← readKey next.1
    return (part :: others, next.andThen behind)
  | none => return ([part], blanks)
termination_by s.length
decreasing_by exact next.2

end DesignTokens.Toml
