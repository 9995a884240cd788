import DesignTokens.Entries

/-!
# Arguments of a command line

An argument that starts with a hyphen holds options, all other arguments stand for themselves. A
long option takes its value behind `=` or from the next argument. Short options may share one
argument, and the first of them that takes a value takes the rest of that argument, or the next one.
Everything behind `--` stands for itself. Of an option given twice the last value counts.
-/

namespace DesignTokens

/-- What an option does. -/
inductive OptionRole where
  | takesValue
  /-- Turns a setting on or off. -/
  | switches (on : Bool)
  deriving DecidableEq

/-- An option as it is written, and the setting that it is for. -/
structure OptionSpec where
  written : String
  setting : String
  role : OptionRole
  deriving DecidableEq

/-- What the arguments say. -/
structure Arguments where
  values : Entries String
  switches : Entries Bool
  positional : List String
  deriving DecidableEq

namespace Arguments

def empty : Arguments := ⟨[], [], []⟩

def withValue (arguments : Arguments) (setting value : String) : Arguments :=
  { arguments with values := arguments.values.put setting value }

def withSwitch (arguments : Arguments) (setting : String) (on : Bool) : Arguments :=
  { arguments with switches := arguments.switches.put setting on }

def withPositional (arguments : Arguments) (more : List String) : Arguments :=
  { arguments with positional := arguments.positional ++ more }

/-- The option that is written like this. -/
def spec? (specs : List OptionSpec) (written : List Char) : Option OptionSpec :=
  specs.find? (·.written.toList == written)

def isLong (written : List Char) : Bool :=
  ['-', '-'].isPrefixOf written

/-- What one argument with options leads to. -/
inductive Step where
  | done (arguments : Arguments)
  /-- The next argument is the value of a setting. -/
  | wants (arguments : Arguments) (setting : String)

/-- Short options in one argument. -/
def short (specs : List OptionSpec) (arguments : Arguments) : List Char → Option Step
  | [] => some (.done arguments)
  | c :: rest =>
    match spec? specs ['-', c] with
    | none => none
    | some ⟨_, setting, .switches on⟩ => short specs (arguments.withSwitch setting on) rest
    | some ⟨_, setting, .takesValue⟩ =>
      if rest.isEmpty then some (.wants arguments setting)
      else some (.done (arguments.withValue setting (String.ofList rest)))

/-- A long option, with the text behind its `=`. -/
def long (arguments : Arguments) (spec : OptionSpec) (value : Option (List Char)) : Option Step :=
  match spec.role, value with
  | .takesValue, some value => some (.done (arguments.withValue spec.setting (String.ofList value)))
  | .takesValue, none => some (.wants arguments spec.setting)
  | .switches on, none => some (.done (arguments.withSwitch spec.setting on))
  | .switches _, some _ => none

/-- One argument that starts with a hyphen. -/
def options (specs : List OptionSpec) (arguments : Arguments) (argument : List Char) :
    Option Step :=
  let written := argument.takeWhile (· ≠ '=')
  let value := if written.length < argument.length then some (argument.drop (written.length + 1))
    else none
  match isLong argument, spec? (specs.filter (isLong ·.written.toList)) written with
  | true, some spec => long arguments spec value
  | true, none => none
  | false, _ => short specs arguments (argument.drop 1)

/-- Whether an argument holds options. A hyphen by itself does not. -/
def holdsOptions (argument : String) : Bool :=
  match argument.toList with
  | '-' :: _ :: _ => true
  | _ => false

/-- Reads arguments. With `stop` everything from the first argument that is no option stands for
itself. -/
def read (specs : List OptionSpec) (stop : Bool) (arguments : Arguments) :
    List String → Option Arguments
  | [] => some arguments
  | argument :: rest =>
    if argument = "--" then some (arguments.withPositional rest)
    else if holdsOptions argument then
      match options specs arguments argument.toList, rest with
      | none, _ => none
      | some (.done after), rest => read specs stop after rest
      | some (.wants _ _), [] => none
      | some (.wants after setting), value :: behind =>
        read specs stop (after.withValue setting value) behind
    else if stop then some (arguments.withPositional (argument :: rest))
    else read specs stop (arguments.withPositional [argument]) rest

end Arguments

end DesignTokens
