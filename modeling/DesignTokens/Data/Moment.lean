/-!
# Dates and times

A settings file may hold a date, a time of day, or both with an offset from universal time.
-/

namespace DesignTokens

/-- A day of the calendar. -/
structure Date where
  year : Nat
  month : Nat
  day : Nat
  deriving DecidableEq

/-- A time of day, to the microsecond. -/
structure TimeOfDay where
  hour : Nat
  minute : Nat
  second : Nat
  microsecond : Nat
  deriving DecidableEq

/-- A date, a time of day, or a date with a time and perhaps its offset from universal time in
minutes. -/
inductive Moment where
  | date (date : Date)
  | time (time : TimeOfDay)
  | dateTime (date : Date) (time : TimeOfDay) (offset : Option Int)
  deriving DecidableEq

namespace Date

def isLeap (year : Nat) : Bool :=
  year % 4 == 0 && (year % 100 != 0 || year % 400 == 0)

/-- The number of days of a month, 1 for January to 12. -/
def daysIn (year month : Nat) : Nat :=
  if month = 2 then if isLeap year then 29 else 28
  else if month = 4 ∨ month = 6 ∨ month = 9 ∨ month = 11 then 30
  else 31

/-- Whether the calendar has the day. Years start at 1. -/
def valid (d : Date) : Bool :=
  1 ≤ d.year && 1 ≤ d.month && d.month ≤ 12 && 1 ≤ d.day && d.day ≤ daysIn d.year d.month

example : valid ⟨2024, 2, 29⟩ = true := by decide
example : valid ⟨2023, 2, 29⟩ = false := by decide

end Date

/-- A number padded with zeros to `width` digits. -/
def zeroPadded (width n : Nat) : String :=
  let digits := Nat.toDigits 10 n
  String.ofList (List.replicate (width - digits.length) '0' ++ digits)

namespace Moment

/-- Year, month and day with hyphens. -/
def dateText (d : Date) : String :=
  zeroPadded 4 d.year ++ "-" ++ zeroPadded 2 d.month ++ "-" ++ zeroPadded 2 d.day

/-- Hour, minute and second with colons, and six decimals where there is a fraction. -/
def timeText (t : TimeOfDay) : String :=
  let clock := zeroPadded 2 t.hour ++ ":" ++ zeroPadded 2 t.minute ++ ":" ++ zeroPadded 2 t.second
  if t.microsecond = 0 then clock else clock ++ "." ++ zeroPadded 6 t.microsecond

def offsetText (minutes : Int) : String :=
  let sign := if minutes < 0 then "-" else "+"
  sign ++ zeroPadded 2 (minutes.natAbs / 60) ++ ":" ++ zeroPadded 2 (minutes.natAbs % 60)

/-- A moment by itself in a message. -/
def plain : Moment → String
  | .date d => dateText d
  | .time t => timeText t
  | .dateTime d t offset =>
    dateText d ++ " " ++ timeText t ++ (offset.map offsetText).getD ""

/-- The numbers of a time, without the zeros at the end that a reader supplies. -/
def timeParts (t : TimeOfDay) : List Nat :=
  if t.microsecond ≠ 0 then [t.hour, t.minute, t.second, t.microsecond]
  else if t.second ≠ 0 then [t.hour, t.minute, t.second]
  else [t.hour, t.minute]

/-- An offset as days and seconds, the seconds never negative. -/
def zoneText (minutes : Int) : String :=
  if minutes = 0 then "datetime.timezone.utc"
  else if minutes < 0 then
    "datetime.timezone(datetime.timedelta(days=-1, seconds=" ++
      toString (86400 + minutes * 60) ++ "))"
  else "datetime.timezone(datetime.timedelta(seconds=" ++ toString (minutes * 60) ++ "))"

/-- A moment as a part of a list or a table in a message: its constructor with its numbers. -/
def shown (m : Moment) : String :=
  let call (name : String) (parts : List String) : String :=
    "datetime." ++ name ++ "(" ++ ", ".intercalate parts ++ ")"
  match m with
  | .date d => call "date" [toString d.year, toString d.month, toString d.day]
  | .time t => call "time" ((timeParts t).map toString)
  | .dateTime d t offset =>
    let zone := match offset with
      | some minutes => ["tzinfo=" ++ zoneText minutes]
      | none => []
    call "datetime" ([d.year, d.month, d.day].map toString ++ (timeParts t).map toString ++ zone)

end Moment

end DesignTokens
