import DesignTokens.Disk.Path

/-!
# Reports

A report is the message of an error together with where the error was found: a file, a token inside
it, and perhaps a detail from underneath. The place comes first, each of its parts is left out when
it is not known, and the message stands on a line of its own.
-/

namespace DesignTokens

/-- Where an error was found. -/
structure Context where
  file : Option Path
  token : Option String
  detail : Option String

/-- A text that says something. -/
def nonempty (text : Option String) : Option String :=
  text.filter (· ≠ "")

namespace Context

/-- The place of an error in one line. -/
def location (context : Context) : String :=
  let file := (context.file.map Path.text).toList
  let token := ((nonempty context.token).map ("at " ++ ·)).toList
  match file ++ token with
  | [] => "<unknown>"
  | parts => " ".intercalate parts

/-- The place of an error, and below it the detail. -/
def text (context : Context) : String :=
  match nonempty context.detail with
  | some detail => context.location ++ "\n  " ++ detail
  | none => context.location

end Context

/-- The message of an error, and where it was found. -/
structure Report where
  message : String
  context : Option Context

namespace Report

/-- A report of a message found at a place. Without any part of a place there is no context. -/
def located (message : String) (file : Option Path) (token detail : Option String) : Report :=
  if file.isSome || (nonempty token).isSome || (nonempty detail).isSome then
    ⟨message, some ⟨file, token, detail⟩⟩
  else ⟨message, none⟩

/-- The whole text of a report. -/
def text (report : Report) : String :=
  match report.context with
  | some context => context.text ++ "\n" ++ report.message
  | none => report.message

end Report

end DesignTokens
