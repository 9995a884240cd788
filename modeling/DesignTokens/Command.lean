import DesignTokens.Command.Arguments
import DesignTokens.Console
import DesignTokens.Rendering.Output
import DesignTokens.Session
import DesignTokens.Settings
import DesignTokens.Source.Input

/-!
# Commands

* `build` reads tokens and writes stylesheets or documents.
* `resolve` prints the value of one token.
* `calc` prints the tokens of an arithmetic expression and what is wrong with it.

A command is run on a disk. `Command.run` gives what it prints, the warnings it leaves, its exit
status, and the disk afterwards. Nothing is written before everything is rendered.
-/

namespace DesignTokens

/-- What a command line asks for. -/
inductive Command where
  | build (overrides : Overrides) (settings : Option Path)
  | resolve (name : String) (entry : Option Path) (theme : Option String) (method : Method)
      (settings : Option Path)
  | calc (expression : String)

/-- What came of a command. -/
structure Outcome where
  status : Nat
  output : String
  warnings : List Warning
  /-- The failure that stopped the command without a report. -/
  crash : Option Failure
  disk : Disk

namespace Command

/-! ## Command lines -/

def commonOptions : List OptionSpec :=
  [⟨"--entry", "entry", .takesValue⟩, ⟨"-e", "entry", .takesValue⟩,
   ⟨"--config", "settings", .takesValue⟩, ⟨"-c", "settings", .takesValue⟩]

def programOptions : List OptionSpec :=
  [⟨"--verbose", "verbose", .switches true⟩, ⟨"-v", "verbose", .switches true⟩]

def buildOptions : List OptionSpec :=
  commonOptions ++
  [⟨"--output", "output", .takesValue⟩, ⟨"-o", "output", .takesValue⟩,
   ⟨"--format", "format", .takesValue⟩, ⟨"-f", "format", .takesValue⟩,
   ⟨"--theme-scope", "scope", .takesValue⟩,
   ⟨"--strict-names", "strict names", .switches true⟩,
   ⟨"--no-strict-names", "strict names", .switches false⟩,
   ⟨"--clean", "clean", .switches true⟩, ⟨"--no-clean", "clean", .switches false⟩]

def resolveOptions : List OptionSpec :=
  commonOptions ++
  [⟨"--theme", "theme", .takesValue⟩, ⟨"-t", "theme", .takesValue⟩,
   ⟨"--mode", "mode", .takesValue⟩, ⟨"-m", "mode", .takesValue⟩]

/-- The method of a word. -/
def methodOfWord? (word : String) : Option Method :=
  if word = "variables" then some .customProperties
  else if word = "static" then some .static
  else none

def pathGiven (arguments : Arguments) (setting : String) : Option Path :=
  (arguments.values.get? setting).map Path.ofText

/-- The arguments of `build`. -/
def ofBuild (arguments : Arguments) : Option Command :=
  let text (setting : String) := (arguments.values.get? setting).map Data.text
  let switch (setting : String) := (arguments.switches.get? setting).map Data.boolean
  match arguments.positional with
  | [] =>
    some (.build
      ⟨pathGiven arguments "entry", pathGiven arguments "output", text "format", text "scope",
        switch "clean", switch "strict names"⟩
      (pathGiven arguments "settings"))
  | _ => none

/-- The arguments of `resolve`. -/
def ofResolve (arguments : Arguments) : Option Command :=
  match arguments.positional, methodOfWord? ((arguments.values.get? "mode").getD "static") with
  | [name], some method =>
    some (.resolve name (pathGiven arguments "entry") (arguments.values.get? "theme") method
      (pathGiven arguments "settings"))
  | _, _ => none

/-- The arguments of `calc`. -/
def ofCalc (arguments : Arguments) : Option Command :=
  match arguments.positional with
  | [expression] => some (.calc expression)
  | _ => none

/-- The command of a command line, or nothing when it is not used as it should be. -/
def ofArguments? (line : List String) : Option Command := do
  match (← Arguments.read programOptions true .empty line).positional with
  | "build" :: rest => ofBuild (← Arguments.read buildOptions false .empty rest)
  | "resolve" :: rest => ofResolve (← Arguments.read resolveOptions false .empty rest)
  | "calc" :: rest => ofCalc (← Arguments.read [] false .empty rest)
  | _ => none

/-! ## Running -/

/-- The settings of a file, or of the working directory. -/
def settingsAt (disk : Disk) (file : Option Path) : Except Failure Settings :=
  match file with
  | some file => Settings.load disk file
  | none => Settings.find disk ⟨.top, disk.working⟩

/-- The settings of a command. -/
def settingsFor (disk : Disk) (file : Option Path) (overrides : Overrides) :
    Except Failure Settings := do
  (← settingsAt disk file).override overrides

/-- The outcome of a failure on a disk. -/
def failed (failure : Failure) (warnings : List Warning) (disk : Disk) : Outcome :=
  match failure.report? with
  | some report =>
    ⟨1, Console.print ("[red]Error:[/red] " ++ Console.escape report.text), warnings, none, disk⟩
  | none => ⟨1, "", warnings, some failure, disk⟩

/-- The settings of a build and the files that it would write. -/
def rendered (disk : Disk) (overrides : Overrides) (file : Option Path) :
    Noted Failure Warning (Settings × Entries String) := do
  let settings ← Noted.lift (settingsFor disk file overrides)
  let library ← Source.load disk settings.entry settings.strictNames
  let files ← ((Session.start library).run
    (Rendering.files library settings.format settings.scope)).1
  return (settings, files)

/-- What a build prints about the files it has written. -/
def builtText (settings : Settings) (written : List Path) : String :=
  let lines := written.map fun path =>
    Console.print ("  [dim]wrote[/dim] " ++ Console.escape path.text)
  let format := match settings.format with
    | .css => "CSS"
    | .json => "JSON"
  String.join lines ++
    Console.print (s!"[green]Built {written.length} {format} file(s) into " ++
      Console.escape settings.output.text ++ "[/green]")

def runBuild (disk : Disk) (overrides : Overrides) (file : Option Path) : Outcome :=
  match rendered disk overrides file with
  | ⟨warnings, .error failure⟩ => failed failure warnings disk
  | ⟨warnings, .ok (settings, files)⟩ =>
    match (Output.write settings.output settings.clean files).run.run disk with
    | (.ok written, disk) => ⟨0, builtText settings written, warnings, none, disk⟩
    | (.error e, disk) => failed (.disk e) warnings disk

/-- The lines that say what a token resolves to, or nothing when no active token has the name. -/
def resolution (library : Library) (name : String) (theme : Option String) (method : Method) :
    Inquiry (Option (List String)) := do
  let s := library.substitution method theme
  match ← Inquiry.named theme name with
  | none => return none
  | some token =>
    match token.value with
    | .bundle bundle =>
      let properties ← s.properties token bundle
      return some (properties.map fun (property, value) => property ++ ": " ++ value)
    | _ => return some [← s.cssValue token]

/-- What `resolve` finds. -/
def resolved (disk : Disk) (name : String) (entry : Option Path) (theme : Option String)
    (method : Method) (file : Option Path) : Noted Failure Warning (Option (List String)) := do
  let overrides : Overrides := ⟨entry, none, none, none, none, none⟩
  let settings ← Noted.lift (settingsFor disk file overrides)
  let library ← Source.load disk settings.entry settings.strictNames
  ((Session.start library).run (resolution library name theme method)).1

def runResolve (disk : Disk) (name : String) (entry : Option Path) (theme : Option String)
    (method : Method) (file : Option Path) : Outcome :=
  match resolved disk name entry theme method file with
  | ⟨warnings, .error failure⟩ => failed failure warnings disk
  | ⟨warnings, .ok none⟩ =>
    let message := "[red]No token named " ++ Console.escape name ++ "[/red]"
    ⟨1, Console.print message, warnings, none, disk⟩
  | ⟨warnings, .ok (some lines)⟩ =>
    ⟨0, String.join (lines.map Console.echo), warnings, none, disk⟩

/-- A text with blanks behind it up to a width. -/
def padRight (width : Nat) (text : String) : String :=
  text ++ String.ofList (List.replicate (width - text.length) ' ')

/-- A text with blanks in front of it up to a width. -/
def padLeft (width : Nat) (text : String) : String :=
  String.ofList (List.replicate (width - text.length) ' ') ++ text

/-- A token of an expression in a listing. -/
def tokenLine (token : Calc.Token) : String :=
  Console.echo (padLeft 4 (toString token.pos) ++ "  " ++ padRight 10 token.kind.name ++ " " ++
    Text.quoted (String.ofList token.text))

/-- What `calc` prints about an error. -/
def calcErrorText (e : Calc.Error) : String :=
  Console.print (s!"[red]{e.fault.name}[/red]: " ++
    Console.escape (Text.quoted (String.ofList e.fragment)) ++ s!" at position {e.pos}")

def runCalc (disk : Disk) (expression : String) : Outcome :=
  match Calc.scan expression.toList with
  | .error e => ⟨1, calcErrorText e, [], none, disk⟩
  | .ok tokens =>
    let listing := String.join (tokens.map tokenLine)
    match Calc.check tokens with
    | .error e => ⟨1, listing ++ calcErrorText e, [], none, disk⟩
    | .ok () => ⟨0, listing ++ Console.print "[green]valid[/green]", [], none, disk⟩

/-- Runs a command on a disk. -/
def run (disk : Disk) : Command → Outcome
  | .build overrides file => runBuild disk overrides file
  | .resolve name entry theme method file => runResolve disk name entry theme method file
  | .calc expression => runCalc disk expression

/-- The exit status of a command line that is not used as it should be. -/
def usageStatus : Nat := 2

end Command

end DesignTokens
