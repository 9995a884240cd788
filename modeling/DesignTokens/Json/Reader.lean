import DesignTokens.Data.Basic
import DesignTokens.Text.Hexadecimal
import DesignTokens.Text.Rest

/-!
# Reading JSON

`Json.read` reads a whole text as one JSON value. Beyond the standard it accepts `NaN`, `Infinity`
and `-Infinity`, and it keeps integers and doubles apart. A repeated key keeps its first place and
takes its last value. A failure names its cause and how much of the text was left there. A text that
follows the rules is not read either when an integer in it has more digits than `Data.digitLimit`.
-/

namespace DesignTokens.Json

open DesignTokens.Text

/-- Why a text is not read as a JSON document. -/
inductive Fault where
  | byteOrderMark
  | expectingValue
  | expectingName
  | expectingColon
  | expectingComma
  | unterminatedString
  | controlCharacter
  | badEscape
  | badUnicodeEscape
  | extraText
  /-- An integer has more digits than are read. -/
  | tooManyDigits (digits : String)
  deriving DecidableEq

/-- Whether the text breaks a rule of JSON. -/
def Fault.isMalformed : Fault → Bool
  | .tooManyDigits _ => false
  | _ => true

/-- The wording of a cause. -/
def Fault.message : Fault → String
  | .byteOrderMark => "Unexpected UTF-8 BOM (decode using utf-8-sig)"
  | .expectingValue => "Expecting value"
  | .expectingName => "Expecting property name enclosed in double quotes"
  | .expectingColon => "Expecting ':' delimiter"
  | .expectingComma => "Expecting ',' delimiter"
  | .unterminatedString => "Unterminated string starting at"
  | .controlCharacter => "Invalid control character at"
  | .badEscape => "Invalid \\escape"
  | .badUnicodeEscape => "Invalid \\uXXXX escape"
  | .extraText => "Extra data"
  | .tooManyDigits digits =>
    s!"Exceeds the limit ({Data.digitLimit} digits) for integer string conversion: " ++
      s!"value has {digits.length} digits"

/-- A cause and the number of characters that were left at its place. -/
structure Error where
  fault : Fault
  left : Nat

/-- Cause, line, column and offset in the text that was read. -/
def Error.message (e : Error) (source : List Char) : String :=
  let offset := source.length - e.left
  let before := source.take offset
  let line := before.count '\n' + 1
  let column := (before.reverse.takeWhile (· != '\n')).length + 1
  e.fault.message ++ s!": line {line} column {column} (char {offset})"

def isSpace (c : Char) : Bool :=
  c == ' ' || c == '\t' || c == '\n' || c == '\r'

/-! ## Strings -/

/-- The character that a letter after a backslash stands for. -/
def escape? : Char → Option Char
  | '"' => some '"'
  | '\\' => some '\\'
  | '/' => some '/'
  | 'b' => some '\x08'
  | 'f' => some '\x0c'
  | 'n' => some '\n'
  | 'r' => some '\r'
  | 't' => some '\t'
  | _ => none

/-- A number of four hexadecimal digits. -/
def hex4? (a b c d : Char) : Option Nat := do
  let a ← hexDigit? a
  let b ← hexDigit? b
  let c ← hexDigit? c
  let d ← hexDigit? d
  return ((a * 16 + b) * 16 + c) * 16 + d

/-- The character of a code unit. Half of a pair by itself is no character and is replaced. -/
def unitChar (code : Nat) : Char :=
  if 0xD800 ≤ code ∧ code ≤ 0xDFFF then '\ufffd' else Char.ofNat code

/-- A code unit in four hexadecimal digits. At least one character has to follow it. A failure is
placed at the letter in front of the digits. -/
def readUnit (s : List Char) : Except Error (Nat × Rest s) :=
  match s with
  | a :: b :: c :: d :: next :: r =>
    match hex4? a b c d with
    | some code =>
      return (code, (((Rest.tail d (next :: r)).under c).under b).under a)
    | none => throw ⟨.badUnicodeEscape, s.length + 1⟩
  | _ => throw ⟨.badUnicodeEscape, s.length + 1⟩

/-- The second half of a pair of code units, when it follows. -/
def secondHalf? (s : List Char) : Option (Except Error (Nat × Rest s)) :=
  match s with
  | '\\' :: 'u' :: a :: b :: c :: d :: next :: r =>
    some ((readUnit (a :: b :: c :: d :: next :: r)).map fun (code, rest) =>
      (code, (rest.under 'u').under '\\'))
  | _ => none

/-- The character of the escape `u` whose digits start `s`. -/
def readUnicode (s : List Char) : Except Error (Char × Rest s) := do
  let (high, rest) ← readUnit s
  if 0xD800 ≤ high ∧ high ≤ 0xDBFF then
    match secondHalf? rest.1 with
    | none => return (unitChar high, rest)
    | some reply =>
      let (low, more) ← reply
      if 0xDC00 ≤ low ∧ low ≤ 0xDFFF then
        return (Char.ofNat (0x10000 + (high - 0xD800) * 0x400 + (low - 0xDC00)), rest.andThen more)
      else return (unitChar high, rest)
  else return (unitChar high, rest)

/-- The rest of a string after its opening quote, which had `opening` characters left. -/
def readString (opening : Nat) (s : List Char) : Except Error (List Char × Rest s) :=
  match s with
  | [] => throw ⟨.unterminatedString, opening⟩
  | '"' :: r => return ([], .tail '"' r)
  | ['\\'] => throw ⟨.unterminatedString, opening⟩
  | '\\' :: 'u' :: r => do
    let (c, left) ← readUnicode r
    let (text, rest) ← readString opening left.1
    return (c :: text, ((left.andThen rest).under 'u').under '\\')
  | '\\' :: letter :: r =>
    match escape? letter with
    | none => throw ⟨.badEscape, r.length + 2⟩
    | some c => do
      let (text, rest) ← readString opening r
      return (c :: text, (rest.under letter).under '\\')
  | c :: r =>
    if c.toNat < 0x20 then throw ⟨.controlCharacter, r.length + 1⟩
    else do
      let (text, rest) ← readString opening r
      return (c :: text, rest.under c)
termination_by s.length
decreasing_by
  · exact Nat.lt_trans left.2 (Nat.lt_add_of_pos_right Nat.two_pos)
  · exact Nat.lt_add_of_pos_right Nat.two_pos
  · exact Nat.lt_succ_self _

/-! ## Numbers -/

def isDigit (c : Char) : Bool := '0' ≤ c && c ≤ '9'

/-- The value of a run of decimal digits. -/
def digitsValue (digits : List Char) : Nat :=
  digits.foldl (fun n c => n * 10 + (c.toNat - 48)) 0

/-- The digits before the point: a single zero, or a run that does not start with one. -/
def wholePart (s : List Char) : List Char × List Char :=
  match s with
  | '0' :: r => (['0'], r)
  | _ => (s.takeWhile isDigit, s.dropWhile isDigit)

/-- The digits after a point, when there are any. -/
def fractionPart (s : List Char) : Option (List Char × List Char) :=
  match s with
  | '.' :: r =>
    if r.head?.any isDigit then some (r.takeWhile isDigit, r.dropWhile isDigit) else none
  | _ => none

/-- The exponent after `e` or `E`, when it has digits. -/
def exponentPart (s : List Char) : Option (Int × List Char) :=
  match s with
  | e :: r =>
    if e = 'e' ∨ e = 'E' then
      let sign := r.head?
      let body := if sign = some '-' ∨ sign = some '+' then r.drop 1 else r
      let digits := body.takeWhile isDigit
      if digits.isEmpty then none
      else
        let size : Int := digitsValue digits
        some (if sign = some '-' then -size else size, body.dropWhile isDigit)
    else none
  | [] => none

/-- A number: an integer without a fraction and an exponent, otherwise a double. -/
def readNumber (s : List Char) : Except Error (Data × List Char) :=
  let negative := s.head? = some '-'
  let body := if negative then s.drop 1 else s
  let (whole, afterWhole) := wholePart body
  if whole.isEmpty then throw ⟨.expectingValue, s.length⟩
  else
    let (fraction, afterFraction) := (fractionPart afterWhole).getD ([], afterWhole)
    let (exponent, left) := (exponentPart afterFraction).getD (0, afterFraction)
    if fraction.isEmpty && (exponentPart afterFraction).isNone then
      if whole.length > Data.digitLimit then throw ⟨.tooManyDigits (String.ofList whole), s.length⟩
      else
        let size : Int := digitsValue whole
        return (.integer (if negative then -size else size), left)
    else
      let size := Double.ofDecimal (digitsValue (whole ++ fraction)) (exponent - fraction.length)
      return (.real (if negative then size.neg else size), left)

/-! ## Values -/

/-- The words that are values, longest match not needed since none starts another. -/
def words : List (List Char × Data) :=
  [("null".toList, .null), ("true".toList, .boolean true), ("false".toList, .boolean false),
   ("NaN".toList, .real .notANumber), ("Infinity".toList, .real .infinity),
   ("-Infinity".toList, .real Double.infinity.neg)]

/-- A word or a number, and the text behind it. -/
def readPlain (s : List Char) : Except Error (Data × List Char) :=
  match words.find? (·.1.isPrefixOf s) with
  | some (word, value) => return (value, s.drop word.length)
  | none => readNumber s

/-- A word or a number that takes up some of the text. -/
def readScalar (s : List Char) : Except Error (Data × Rest s) := do
  let (value, left) ← readPlain s
  if h : left.length < s.length then return (value, ⟨left, h⟩)
  else throw ⟨.expectingValue, s.length⟩

mutual
/-- A value at the front of `s`. -/
def readValue (s : List Char) : Except Error (Data × Rest s) :=
  match s with
  | '"' :: r => do
    let (text, rest) ← readString (r.length + 1) r
    return (.text (String.ofList text), rest.under '"')
  | '[' :: r => do
    let start := skip isSpace r
    match after? ']' start.1 with
    | some rest => return (.list [], (start.andThen rest).under '[')
    | none =>
      let (items, rest) ← readItems start.1
      return (.list items, (start.andThen rest).under '[')
  | '{' :: r => do
    let start := skip isSpace r
    match after? '}' start.1 with
    | some rest => return (.table [], (start.andThen rest).under '{')
    | none =>
      let (fields, rest) ← readFields start.1
      return (.table (Entries.ofList fields), (start.andThen rest).under '{')
  | s => readScalar s
termination_by (s.length, 0)
decreasing_by all_goals exact .left _ _ (Nat.lt_succ_of_le start.2)

/-- The items of a list up to its closing bracket. There is at least one. -/
def readItems (s : List Char) : Except Error (List Data × Rest s) := do
  let (item, left) ← readValue s
  let next := left.thenAtMost (skip isSpace left.1)
  match after? ']' next.1 with
  | some rest => return ([item], next.andThen rest)
  | none =>
    match after? ',' next.1 with
    | some comma =>
      let start := next.andThen (comma.thenAtMost (skip isSpace comma.1))
      let (items, rest) ← readItems start.1
      return (item :: items, start.andThen rest)
    | none => throw ⟨.expectingComma, next.1.length⟩
termination_by (s.length, 1)
decreasing_by
  · exact .right _ Nat.zero_lt_one
  · exact .left _ _ start.2

/-- A name with its value, in front of a comma or a closing brace. -/
def readField (s : List Char) : Except Error ((String × Data) × Rest s) :=
  match s with
  | '"' :: opened => do
    let (name, closed) ← readString (opened.length + 1) opened
    let next := closed.thenAtMost (skip isSpace closed.1)
    match after? ':' next.1 with
    | some colon =>
      let start := next.andThen (colon.thenAtMost (skip isSpace colon.1))
      let (value, rest) ← readValue start.1
      let left := start.andThen rest
      return ((String.ofList name, value), (left.thenAtMost (skip isSpace left.1)).under '"')
    | none => throw ⟨.expectingColon, next.1.length⟩
  | s => throw ⟨.expectingName, s.length⟩
termination_by (s.length, 1)
decreasing_by exact .left _ _ (Nat.lt_succ_of_lt start.2)

/-- The fields of a table up to its closing brace. There is at least one. -/
def readFields (s : List Char) : Except Error (List (String × Data) × Rest s) := do
  let (field, next) ← readField s
  match after? '}' next.1 with
  | some rest => return ([field], next.andThen rest)
  | none =>
    match after? ',' next.1 with
    | some comma =>
      let start := next.andThen (comma.thenAtMost (skip isSpace comma.1))
      let (fields, rest) ← readFields start.1
      return (field :: fields, start.andThen rest)
    | none => throw ⟨.expectingComma, next.1.length⟩
termination_by (s.length, 2)
decreasing_by
  · exact .right _ (Nat.lt_succ_self 1)
  · exact .left _ _ start.2
end

/-- A whole text as one value. -/
def read (source : List Char) : Except Error Data := do
  if source.head? = some '\ufeff' then throw ⟨.byteOrderMark, source.length⟩
  let (value, left) ← readValue (skip isSpace source).1
  let behind := skip isSpace left.1
  if behind.1.isEmpty then return value else throw ⟨.extraText, behind.1.length⟩

end DesignTokens.Json
