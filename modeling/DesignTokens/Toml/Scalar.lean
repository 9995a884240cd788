import DesignTokens.Text.Rest
import DesignTokens.Toml.Error

/-!
# Numbers and dates in TOML

Digits may be grouped by single underscores. A number with a fraction or an exponent is a double. An
integer is not read when it has more decimal digits than `Data.digitLimit`.
A date may be followed by a time of day, and the time by an offset.
-/

namespace DesignTokens.Toml

def isDigit (c : Char) : Bool := '0' ≤ c && c ≤ '9'

def isHexDigit (c : Char) : Bool :=
  isDigit c || 'a' ≤ c && c ≤ 'f' || 'A' ≤ c && c ≤ 'F'

/-- The value of a digit up to `f`. -/
def digitValue (c : Char) : Nat :=
  if isDigit c then c.toNat - 48
  else if 'a' ≤ c then c.toNat - 87
  else c.toNat - 55

/-- The number that some digits stand for. -/
def numberOf (base : Nat) (digits : List Char) : Nat :=
  digits.foldl (fun n c => n * base + digitValue c) 0

/-- The digits after a first one, each with an underscore in front of it or none, and the text
behind them. -/
def moreDigits (p : Char → Bool) : List Char → List Char × List Char
  | '_' :: c :: rest =>
    if p c then
      let (digits, left) := moreDigits p rest
      (c :: digits, left)
    else ([], '_' :: c :: rest)
  | c :: rest =>
    if p c then
      let (digits, left) := moreDigits p rest
      (c :: digits, left)
    else ([], c :: rest)
  | [] => ([], [])

/-- Digits of a class, at least one, and the text behind them. -/
def digits? (p : Char → Bool) : List Char → Option (List Char × List Char)
  | c :: rest =>
    if p c then
      let (digits, left) := moreDigits p rest
      some (c :: digits, left)
    else none
  | [] => none

/-- An integer after `0x`, `0b` or `0o`. -/
def basedInteger? : List Char → Option (Nat × List Char)
  | '0' :: 'x' :: rest => (digits? isHexDigit rest).map fun (ds, left) => (numberOf 16 ds, left)
  | '0' :: 'b' :: rest =>
    (digits? (fun c => c == '0' || c == '1') rest).map fun (ds, left) => (numberOf 2 ds, left)
  | '0' :: 'o' :: rest =>
    (digits? (fun c => '0' ≤ c && c ≤ '7') rest).map fun (ds, left) => (numberOf 8 ds, left)
  | _ => none

/-- The digits before the point: a single zero, or digits that do not start with one. -/
def wholeDigits? : List Char → Option (List Char × List Char)
  | '0' :: rest => some (['0'], rest)
  | rest => digits? isDigit rest

/-- A point with digits. -/
def fraction? : List Char → Option (List Char × List Char)
  | '.' :: rest => digits? isDigit rest
  | _ => none

/-- A sign, if there is one. -/
def sign (s : List Char) : Bool × List Char :=
  match s with
  | '-' :: rest => (true, rest)
  | '+' :: rest => (false, rest)
  | _ => (false, s)

/-- An exponent with its digits. -/
def exponent? : List Char → Option (Int × List Char)
  | c :: rest =>
    if c = 'e' ∨ c = 'E' then
      let (negative, body) := sign rest
      (digits? isDigit body).map fun (ds, left) =>
        let size : Int := numberOf 10 ds
        (if negative then -size else size, left)
    else none
  | [] => none

/-- A decimal number, or why it is not read. -/
def decimal? (s : List Char) : Option (Except Fault (Data × List Char)) := do
  let (negative, body) := sign s
  let (whole, afterWhole) ← wholeDigits? body
  let (fraction, afterFraction) := (fraction? afterWhole).getD ([], afterWhole)
  match fraction, exponent? afterFraction with
  | [], none =>
    if whole.length > Data.digitLimit then return .error (.tooManyDigits (String.ofList whole))
    let size : Int := numberOf 10 whole
    return .ok (.integer (if negative then -size else size), afterWhole)
  | _, exponent =>
    let (power, left) := exponent.getD (0, afterFraction)
    let size := Double.ofDecimal (numberOf 10 (whole ++ fraction)) (power - fraction.length)
    return .ok (.real (if negative then size.neg else size), left)

/-- A number, or why it is not read. -/
def number? (s : List Char) : Option (Except Fault (Data × List Char)) :=
  match basedInteger? s with
  | some (n, left) => some (.ok (.integer n, left))
  | none => decimal? s

/-! ## Dates and times -/

/-- Exactly `n` digits. -/
def fixedDigits? (n : Nat) (s : List Char) : Option (Nat × List Char) :=
  let ds := s.take n
  if ds.length = n ∧ ds.all isDigit then some (numberOf 10 ds, s.drop n) else none

/-- Two digits that stand for a number between two bounds. -/
def twoDigits? (least greatest : Nat) (s : List Char) : Option (Nat × List Char) := do
  let (n, left) ← fixedDigits? 2 s
  guard (least ≤ n ∧ n ≤ greatest)
  return (n, left)

/-- A given character. -/
def mark? (c : Char) : List Char → Option (List Char)
  | d :: rest => if d = c then some rest else none
  | [] => none

/-- The millionths of a second. Digits after the sixth are dropped. -/
def microseconds (s : List Char) : Nat × List Char :=
  match s with
  | '.' :: rest =>
    let ds := rest.takeWhile isDigit
    if ds.isEmpty then (0, s)
    else
      let kept := ds.take 6
      (numberOf 10 (kept ++ List.replicate (6 - kept.length) '0'), rest.dropWhile isDigit)
  | _ => (0, s)

/-- A time of day. -/
def time? (s : List Char) : Option (TimeOfDay × List Char) := do
  let (hour, s) ← twoDigits? 0 23 s
  let (minute, s) ← twoDigits? 0 59 (← mark? ':' s)
  let (second, s) ← twoDigits? 0 59 (← mark? ':' s)
  let (micro, s) := microseconds s
  return (⟨hour, minute, second, micro⟩, s)

/-- An offset in minutes. -/
def offset? : List Char → Option (Int × List Char)
  | c :: rest =>
    if c = 'Z' ∨ c = 'z' then some (0, rest)
    else if c = '+' ∨ c = '-' then do
      let (hour, s) ← twoDigits? 0 23 rest
      let (minute, s) ← twoDigits? 0 59 (← mark? ':' s)
      let size : Int := hour * 60 + minute
      return (if c = '-' then -size else size, s)
    else none
  | [] => none

/-- A day of the calendar in its written form. The calendar need not have it. -/
def date? (s : List Char) : Option (Date × List Char) := do
  let (year, s) ← fixedDigits? 4 s
  let (month, s) ← twoDigits? 1 12 (← mark? '-' s)
  let (day, s) ← twoDigits? 1 31 (← mark? '-' s)
  return (⟨year, month, day⟩, s)

/-- The time after a date. -/
def timeAfterDate? : List Char → Option (TimeOfDay × List Char)
  | c :: rest => if c = 'T' ∨ c = 't' ∨ c = ' ' then time? rest else none
  | [] => none

/-- A date, perhaps with a time. -/
def dateTime? (s : List Char) : Option (Date × Moment × List Char) := do
  let (date, s) ← date? s
  match timeAfterDate? s with
  | none => return (date, .date date, s)
  | some (time, s) =>
    match offset? s with
    | some (offset, s) => return (date, .dateTime date time (some offset), s)
    | none => return (date, .dateTime date time none, s)

/-! ## Words -/

/-- The words for numbers that digits cannot write. -/
def numberWords : List (List Char × Double) :=
  [("inf".toList, .infinity), ("nan".toList, .notANumber), ("-inf".toList, Double.infinity.neg),
   ("+inf".toList, .infinity), ("-nan".toList, Double.notANumber.neg),
   ("+nan".toList, .notANumber)]

/-- A word for a number. -/
def numberWord? (s : List Char) : Option (Data × List Char) :=
  (numberWords.find? (·.1.isPrefixOf s)).map fun (word, value) => (.real value, s.drop word.length)

end DesignTokens.Toml
