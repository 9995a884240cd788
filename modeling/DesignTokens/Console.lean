import DesignTokens.Console.Columns
import DesignTokens.Console.Emoji
import DesignTokens.Text.Rest
import DesignTokens.Text.Split

/-!
# The console

Messages to the console are written with marks for style: `[red]` opens a style and `[/red]` closes
it. A mark is a pair of brackets without an opening bracket inside, in which a small letter, `#`,
`/` or `@` comes first. A backslash in front of a mark makes it plain text, two make a backslash.

`Console.escape` writes a text so that it holds no mark, and `Console.print` gives what a console
without styles shows. Results are printed without marks by `Console.echo`.
-/

namespace DesignTokens.Console

open DesignTokens.Text

/-- A character that a mark may start with. -/
def startsMark (c : Char) : Bool :=
  'a' ≤ c && c ≤ 'z' || c == '#' || c == '/' || c == '@'

/-- The mark at the front of a text, and the text behind it. -/
def mark? : List Char → Option (List Char × List Char)
  | '[' :: c :: rest =>
    let inner := rest.takeWhile fun d => d != '[' && d != ']'
    match rest.drop inner.length with
    | ']' :: behind => if startsMark c then some ('[' :: c :: inner ++ [']'], behind) else none
    | _ => none
  | _ => none

theorem mark?_shorter {s found behind : List Char} (h : mark? s = some (found, behind)) :
    behind.length < s.length := by
  unfold mark? at h
  split at h
  · next c rest =>
    simp only at h
    split at h
    · next left same =>
      split at h
      · simp only [Option.some.injEq, Prod.mk.injEq] at h
        have := congrArg List.length same
        rw [List.length_drop, List.length_cons] at this
        simp only [← h.2, List.length_cons]; omega
      · cases h
    · cases h
  · cases h

def isBackslash (c : Char) : Bool := c == '\\'

/-- The backslashes at the front of a text and the mark behind them, and the text behind both. -/
def markWithBackslashes? (s : List Char) : Option (Nat × List Char × List Char) :=
  (mark? (s.dropWhile isBackslash)).map fun (found, behind) =>
    ((s.takeWhile isBackslash).length, found, behind)

theorem markWithBackslashes?_shorter {s found behind : List Char} {n : Nat}
    (h : markWithBackslashes? s = some (n, found, behind)) : behind.length < s.length := by
  obtain ⟨⟨found', behind'⟩, here, same⟩ := Option.map_eq_some_iff.1 h
  simp only [Prod.mk.injEq] at same
  rw [← same.2.2]
  exact Nat.lt_of_lt_of_le (mark?_shorter here) (length_dropWhile_le isBackslash s)

/-- A text with every mark in it made plain. -/
def escapeMarks (s : List Char) : List Char :=
  match h : markWithBackslashes? s with
  | some (n, found, behind) =>
    have := markWithBackslashes?_shorter h
    List.replicate (2 * n + 1) '\\' ++ found ++ escapeMarks behind
  | none =>
    match s with
    | [] => []
    | c :: rest => c :: escapeMarks rest
termination_by s.length

/-- Whether a text ends in exactly one backslash. -/
def endsInBackslash (s : List Char) : Bool :=
  (s.reverse.takeWhile isBackslash).length == 1

/-- A text as it stands between marks. A single backslash at its end is doubled. -/
def escape (text : String) : String :=
  let escaped := escapeMarks text.toList
  String.ofList (if endsInBackslash escaped then escaped ++ ['\\'] else escaped)

/-- The stretches of a text between its marks. A mark behind an odd number of backslashes is a
stretch of its own, and so are the backslashes that are left in front of a mark. `before` holds the
stretch that has been started, last character first. -/
def stretches (before : List Char) (s : List Char) : List (List Char) :=
  match h : markWithBackslashes? s with
  | some (n, found, behind) =>
    have := markWithBackslashes?_shorter h
    before.reverse :: List.replicate (n / 2) '\\' :: (if n % 2 = 1 then found else []) ::
      stretches [] behind
  | none =>
    match s with
    | [] => [before.reverse]
    | c :: rest => stretches (c :: before) rest
termination_by s.length

/-- A text without the backslash in front of any opening bracket. -/
def plainBrackets : List Char → List Char
  | '\\' :: '[' :: rest => '[' :: plainBrackets rest
  | c :: rest => c :: plainBrackets rest
  | [] => []

/-- A text without its marks, with the emoji that it names. -/
def unmark (s : List Char) : List Char :=
  (stretches [] s).flatMap fun stretch => withEmoji (plainBrackets stretch)

/-- Whether the console passes a character over: bell, backspace, vertical tab, form feed, carriage
return. -/
def isPassedOver (c : Char) : Bool :=
  [7, 8, 11, 12, 13].contains c.toNat

/-- The distance between two tab stops. -/
def tabWidth : Nat := 8

/-- A text in front of a tab, with blanks up to the next tab stop. The tab takes one blank at least.
-/
def toTabStop (cell : List Char) : List Char :=
  let tabbed := cell ++ [' ']
  let past := columns tabbed % tabWidth
  tabbed ++ List.replicate (if past = 0 then 0 else tabWidth - past) ' '

/-- A line from its cells, which a tab stands between. Each cell starts at a tab stop. -/
def tabulate : List (List Char) → List Char
  | [] => []
  | [cell] => cell
  | cell :: next :: others => toTabStop cell ++ tabulate (next :: others)

/-- A text with blanks in place of its tabs. -/
def expandTabs (text : List Char) : List Char :=
  ['\n'].intercalate ((text.splitOn '\n').map fun line => tabulate (line.splitOn '\t'))

/-- What the console shows for a message. -/
def shown (message : String) : List Char :=
  expandTabs ((unmark message.toList).filter (!isPassedOver ·))

/-- A message as lines on the console. -/
def print (message : String) : String :=
  String.ofList (shown message ++ ['\n'])

/-! ## Results -/

/-- A character of a color code between its bracket and its letter. -/
def isColorParameter (c : Char) : Bool :=
  '0' ≤ c && c ≤ '9' || c == ';' || c == '?'

/-- The text behind a color code: the escape character, a bracket, numbers, and a letter. -/
def afterColorCode? (s : List Char) : Option (Rest s) := do
  let escaped ← after? '\x1b' s
  let bracket ← after? '[' escaped.1
  let letter := bracket.thenAtMost (skip isColorParameter bracket.1)
  let behind ← afterAny? Char.isAlpha letter.1
  return escaped.andThen (letter.andThen behind)

/-- A text without the codes that color a terminal. -/
def withoutColorCodes (s : List Char) : List Char :=
  match s with
  | [] => []
  | c :: rest =>
    match afterColorCode? (c :: rest) with
    | some behind => withoutColorCodes behind.1
    | none => c :: withoutColorCodes rest
termination_by s.length
decreasing_by
  · exact behind.2
  · exact Nat.lt_succ_self _

/-- A result as a line on the console. -/
def echo (line : String) : String :=
  String.ofList (withoutColorCodes line.toList ++ ['\n'])

end DesignTokens.Console
