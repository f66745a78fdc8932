namespace Stageflow.Cli

inductive Format where
  | text
  | json
  deriving DecidableEq, Repr, Inhabited

def Format.name : Format → String
  | .text => "text"
  | .json => "json"

def Format.ofName? (name : String) : Option Format :=
  [text, json].find? (·.name == name)

/-- What the program is asked to do. -/
inductive Action where
  /-- Runs an expression, for no longer than a number of seconds if there is one. -/
  | run (expression : String) (format : Format) (limit : Option Nat)
  | parse (expression : String) (format : Format)
  | check (expression : String)
  | handlers (format : Format)
  deriving DecidableEq, Repr

/-- A command line that was understood. -/
structure Request where
  verbose : Bool
  directory : Option String
  settingsFile : Option String
  action : Action
  deriving DecidableEq, Repr

/-- What an option does, or what its value has to be. -/
inductive OptionKind where
  | flag
  | path
  | format
  | seconds
  | version
  | help
  deriving DecidableEq, Repr

/-- An option: its name behind two dashes, and a letter behind one dash if it has one. -/
structure OptionSpec where
  name : String
  letter : Option Char
  kind : OptionKind
  deriving DecidableEq, Repr

inductive UsageFault where
  | unknownOption (option : String)
  | missingValue (option : String)
  | unwantedValue (option : String)
  | invalidValue (option value : String)
  | repeatedOption (option : String)
  | unknownCommand (name : String)
  | missingCommand
  | missingExpression
  | unexpectedOperand (operand : String)
  deriving DecidableEq, Repr

def UsageFault.message : UsageFault → String
  | .unknownOption option => s!"unexpected argument '{option}' found"
  | .missingValue option => s!"a value is required for '--{option}' but none was supplied"
  | .unwantedValue option => s!"unexpected value for '--{option}' found; no more were expected"
  | .invalidValue option value => s!"invalid value '{value}' for '--{option}'"
  | .repeatedOption option => s!"the argument '--{option}' cannot be used multiple times"
  | .unknownCommand name => s!"unrecognized subcommand '{name}'"
  | .missingCommand => "a subcommand is required but one was not provided"
  | .missingExpression => "the argument <EXPRESSION> was not provided"
  | .unexpectedOperand operand => s!"unexpected argument '{operand}' found"

/-- Why there is no request. -/
inductive Stop where
  | refused (fault : UsageFault)
  | version
  | help
  deriving DecidableEq, Repr

/-- The number that seconds are written with: digits, perhaps behind a plus sign, below `2^64`. -/
def secondsOf? (text : String) : Option Nat :=
  let digits :=
    match text.toList with
    | '+' :: cs => cs
    | cs => cs
  let n := digits.foldl (fun n c => n * 10 + (c.toNat - 48)) 0
  if digits.isEmpty || !digits.all Char.isDigit || Nat.pow 2 64 ≤ n then none else some n

/-- Whether a text can be the value of an option. -/
def OptionKind.accepts (kind : OptionKind) (value : String) : Bool :=
  match kind with
  | .path => !value.isEmpty
  | .format => (Format.ofName? value).isSome
  | .seconds => (secondsOf? value).isSome
  | .flag | .version | .help => true

def OptionKind.takesValue : OptionKind → Bool
  | .path | .format | .seconds => true
  | .flag | .version | .help => false

/-- The options that stand in front of a command as well as behind it. -/
def commonOptions : List OptionSpec :=
  [⟨"verbose", some 'v', .flag⟩, ⟨"directory", some 'C', .path⟩, ⟨"config", none, .path⟩,
    ⟨"help", some 'h', .help⟩]

/-- The options that only stand in front of a command. -/
def leadingOptions : List OptionSpec :=
  ⟨"version", some 'V', .version⟩ :: commonOptions

/-- The commands, each with its own options. -/
def commands : List (String × List OptionSpec) :=
  let format : OptionSpec := ⟨"format", some 'f', .format⟩
  [("run", [format, ⟨"timeout", none, .seconds⟩]), ("parse", [format]), ("check", []),
    ("handlers", [format])]

/-- What was read in front of a command, or behind one. -/
structure Level where
  options : List (String × String) := []
  operands : List String := []
  /-- The command that ends the level, and what follows it. -/
  command : Option (String × List String) := none
  deriving Repr

namespace Level

def value? (level : Level) (name : String) : Option String :=
  (level.options.find? (·.1 == name)).map (·.2)

def has (level : Level) (name : String) : Bool :=
  (level.value? name).isSome

/-- Takes note of an option, which may be given once. -/
def set (level : Level) (spec : OptionSpec) (value : String) : Except Stop Level :=
  match spec.kind with
  | .version => .error .version
  | .help => .error .help
  | kind =>
    if level.has spec.name then .error (.refused (.repeatedOption spec.name))
    else if kind.takesValue && value.isEmpty && kind == .path then
      .error (.refused (.missingValue spec.name))
    else if !kind.accepts value then .error (.refused (.invalidValue spec.name value))
    else .ok { level with options := level.options ++ [(spec.name, value)] }

/-- Reads letters behind one dash. The first that takes a value takes what follows it in the same
    argument; if nothing follows, its value is the next argument. -/
def setLetters (specs : List OptionSpec) (level : Level) :
    List Char → Except Stop (Level × Option OptionSpec)
  | [] => .ok (level, none)
  | c :: cs =>
    match specs.find? (·.letter == some c) with
    | none => .error (.refused (.unknownOption (String.ofList ['-', c])))
    | some spec =>
      if spec.kind.takesValue then
        match cs with
        | [] => .ok (level, some spec)
        | '=' :: value => (level.set spec (String.ofList value)).map fun level => (level, none)
        | value => (level.set spec (String.ofList value)).map fun level => (level, none)
      else
        match level.set spec "" with
        | .error stop => .error stop
        | .ok level => setLetters specs level cs

/-- Reads an argument that starts with a dash. If it ends with an option whose value is still to
    come, that option is returned. -/
def setOption (specs : List OptionSpec) (level : Level) (argument : List Char) :
    Except Stop (Level × Option OptionSpec) :=
  match argument with
  | '-' :: '-' :: cs =>
    let name := String.ofList (cs.takeWhile (· != '='))
    let value? :=
      match cs.dropWhile (· != '=') with
      | [] => none
      | _ :: value => some (String.ofList value)
    match specs.find? (·.name == name), value? with
    | none, _ => .error (.refused (.unknownOption (String.ofList argument)))
    | some spec, some value =>
      if spec.kind.takesValue then (level.set spec value).map fun level => (level, none)
      else .error (.refused (.unwantedValue name))
    | some spec, none =>
      if spec.kind.takesValue then .ok (level, some spec)
      else (level.set spec "").map fun level => (level, none)
  | _ => setLetters specs level argument.tail

end Level

/-- A dash with something behind it starts an option. -/
def isOption (argument : String) : Bool :=
  match argument.toList with
  | '-' :: _ :: _ => true
  | _ => false

/-- Reads arguments up to a command, where there are commands, or to the end. Behind two dashes
    everything is an operand. -/
def readLevel (specs : List OptionSpec) (names : List String) (level : Level) :
    List String → Except Stop Level
  | [] => .ok level
  | argument :: rest =>
    if argument = "--" then .ok { level with operands := level.operands ++ rest }
    else if isOption argument then
      match level.setOption specs argument.toList with
      | .error stop => .error stop
      | .ok (level, none) => readLevel specs names level rest
      | .ok (level, some spec) =>
        match rest with
        | [] => .error (.refused (.missingValue spec.name))
        | value :: rest =>
          if isOption value then .error (.refused (.missingValue spec.name))
          else
            match level.set spec value with
            | .error stop => .error stop
            | .ok level => readLevel specs names level rest
    else if names.contains argument then .ok { level with command := some (argument, rest) }
    else readLevel specs names { level with operands := level.operands ++ [argument] } rest

/-- The action that a command and what is behind it ask for. -/
def Level.action (level : Level) (command : String) : Except UsageFault Action :=
  let format := ((level.value? "format").bind Format.ofName?).getD .text
  let expression : Except UsageFault String :=
    match level.operands with
    | [] => .error .missingExpression
    | [expression] => .ok expression
    | _ :: operand :: _ => .error (.unexpectedOperand operand)
  match command with
  | "run" =>
    expression.map fun expression =>
      .run expression format ((level.value? "timeout").bind secondsOf?)
  | "parse" => expression.map fun expression => .parse expression format
  | "check" => expression.map .check
  | "handlers" =>
    match level.operands with
    | [] => .ok (.handlers format)
    | operand :: _ => .error (.unexpectedOperand operand)
  | name => .error (.unknownCommand name)

/-- The settings file that a command line names, where the innermost option counts, and otherwise
    the environment. A level without the option looks at the environment, even if the other level
    has it, and an empty name is refused there. -/
def chosenSettingsFile (outer inner : Level) (inherited : Option String) :
    Except UsageFault (Option String) :=
  if inherited = some "" ∧ !(outer.has "config" && inner.has "config") then
    .error (.missingValue "config")
  else .ok (inner.value? "config" <|> outer.value? "config" <|> inherited)

/-- Reads a command line; `inherited` is the settings file that the environment names. -/
def Request.read (inherited : Option String) (arguments : List String) : Except Stop Request := do
  let outer ← readLevel leadingOptions ("help" :: commands.map (·.1)) {} arguments
  match outer.operands, outer.command with
  | name :: _, _ => throw (.refused (.unknownCommand name))
  | [], none => throw (.refused .missingCommand)
  | [], some (name, rest) =>
    if name = "help" then throw .help
    else
      let specs := ((commands.find? (·.1 == name)).map (·.2)).getD []
      let inner ← readLevel (specs ++ commonOptions) [] {} rest
      let refuse {α : Type} (result : Except UsageFault α) : Except Stop α :=
        result.mapError .refused
      let action ← refuse (inner.action name)
      let file ← refuse (chosenSettingsFile outer inner inherited)
      pure
        { verbose := outer.has "verbose" || inner.has "verbose"
          directory := inner.value? "directory" <|> outer.value? "directory"
          settingsFile := file
          action }

end Stageflow.Cli
