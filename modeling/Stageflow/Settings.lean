import Stageflow.Expression.Parse

namespace Stageflow

/-- How the options of a stage reach a program: as arguments, or as a JSON object to read. -/
inductive InputStyle where
  | flags
  | json
  deriving DecidableEq, Repr, Inhabited

def InputStyle.name : InputStyle → String
  | .flags => "flags"
  | .json => "json"

def InputStyle.ofName? (name : String) : Option InputStyle :=
  [flags, json].find? (·.name == name)

/-- A program that is declared as a stage type. -/
structure CommandSpec where
  /-- A name to look for among the installed programs, or a path. -/
  program : String
  /-- Arguments in front of the options of a stage. -/
  args : List String := []
  input : InputStyle := .flags
  /-- Whether output that is JSON becomes a value instead of a text. -/
  parseJson : Bool := false
  /-- After how many seconds the program is stopped. -/
  timeoutSecs : Option Nat := none
  /-- Variables of the environment that are set for the program. -/
  env : Table String := .empty
  description : Option String := none
  deriving DecidableEq, Repr

/-- What the stage types of a registry are made from. -/
structure Settings where
  /-- The program that runs shell commands. -/
  shell : String := "bash"
  /-- The declared programs by stage type. -/
  handlers : Table CommandSpec := .empty
  /-- Stage types that are left out. -/
  disabled : List String := []
  deriving DecidableEq, Repr

instance : Inhabited Settings :=
  ⟨{}⟩

inductive SettingsFault where
  | blankShell
  | invalidName (type : String)
  | blankProgram (type : String)
  | zeroTimeout (type : String)
  deriving DecidableEq, Repr

namespace SettingsFault

def reason : SettingsFault → String
  | .blankShell => "shell must not be empty"
  | .invalidName type => s!"invalid stage type name '{type}'"
  | .blankProgram type => s!"handler '{type}' has an empty program"
  | .zeroTimeout type => s!"handler '{type}' has a zero timeout"

def help : SettingsFault → Option String
  | .blankShell => some "Use e.g. `shell: bash`"
  | .invalidName _ => some "Stage types may contain letters, digits, '_', '-' and '.'"
  | .blankProgram _ => none
  | .zeroTimeout _ => some "Omit timeout_secs to disable the timeout"

end SettingsFault

/-- What is wrong with a declared program, if anything is. Its name comes first. -/
def CommandSpec.fault? (type : String) (spec : CommandSpec) : Option SettingsFault :=
  if !isTypeName type.toList then some (.invalidName type)
  else if Text.isBlankText spec.program then some (.blankProgram type)
  else if spec.timeoutSecs = some 0 then some (.zeroTimeout type)
  else none

/-- What is wrong with some settings, if anything is. The shell comes first, then the declared
    programs in the order of their stage types. -/
def Settings.fault? (settings : Settings) : Option SettingsFault :=
  if Text.isBlankText settings.shell then some .blankShell
  else settings.handlers.entries.findSome? fun entry => entry.2.fault? entry.1

def Failure.ofSettingsFault (fault : SettingsFault) : Failure :=
  .invalidSettings fault.reason fault.help

/-- Fails for settings that no registry can be built from. -/
def Settings.validate (settings : Settings) : Except Failure Unit :=
  match settings.fault? with
  | some fault => .error (.ofSettingsFault fault)
  | none => .ok ()

end Stageflow
