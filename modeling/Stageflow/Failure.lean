import Stageflow.Options

namespace Stageflow

inductive FailureKind where
  | parse
  | unknownStage
  | unresolvedReference
  | handler
  | settings
  | io
  deriving DecidableEq, Repr, Inhabited

/-- The name of a kind in reports and in JSON. -/
def FailureKind.name : FailureKind → String
  | .parse => "parse"
  | .unknownStage => "unknown_stage"
  | .unresolvedReference => "unresolved_reference"
  | .handler => "handler"
  | .settings => "config"
  | .io => "io"

def FailureKind.ofName? (name : String) : Option FailureKind :=
  [parse, unknownStage, unresolvedReference, handler, settings, io].find? (·.name == name)

/-- Everything that can go wrong between an expression and the end of its run, and around it. -/
inductive Failure where
  /-- The expression does not parse; the position counts bytes. -/
  | parse (message : String) (position : Option Nat)
  /-- No handler is registered for the type of a stage. -/
  | unknownStage (type : String) (index : Nat) (available : String)
  /-- A placeholder names a stage type that has no output yet. -/
  | unresolvedReference (reference type : String) (index : Nat)
  | handler (type : String) (index : Nat) (error : HandlerError)
  /-- A settings file that has to exist does not. -/
  | settingsNotFound (path : String)
  /-- Settings that no registry can be built from. -/
  | invalidSettings (reason : String) (help : Option String)
  | io (message : String)
  | yaml (message : String)
  | json (message : String)
  | toml (message : String)
  deriving DecidableEq, Repr, Inhabited

namespace Failure

def kind : Failure → FailureKind
  | .parse .. => .parse
  | .unknownStage .. => .unknownStage
  | .unresolvedReference .. => .unresolvedReference
  | .handler .. => .handler
  | .settingsNotFound _ | .invalidSettings .. => .settings
  | .io _ | .yaml _ | .json _ | .toml _ => .io

/-- A stable identifier of the failure for tools. -/
def code : Failure → String
  | .parse .. => "stagepipe::parse_error"
  | .unknownStage .. => "stagepipe::unknown_stage"
  | .unresolvedReference .. => "stagepipe::unresolved_reference"
  | .handler .. => "stagepipe::handler_failed"
  | .settingsNotFound _ => "stagepipe::config_not_found"
  | .invalidSettings .. => "stagepipe::invalid_config"
  | .io _ => "stagepipe::io_error"
  | .yaml _ => "stagepipe::yaml_error"
  | .json _ => "stagepipe::json_error"
  | .toml _ => "stagepipe::toml_error"

def message : Failure → String
  | .parse message _ => "Parse error: " ++ message
  | .unknownStage type index _ => s!"Unknown stage type '{type}' (stage {index})"
  | .unresolvedReference reference type index =>
    s!"Stage {index} ('{type}') references '\x7b\x7b{reference}\x7d\x7d' which has not run yet"
  | .handler type index error => s!"Stage {index} ('{type}') failed: {error.message}"
  | .settingsNotFound path => "Config file not found: " ++ path
  | .invalidSettings reason _ => "Invalid configuration: " ++ reason
  | .io message => "IO error: " ++ message
  | .yaml message => "YAML parsing error: " ++ message
  | .json message => "JSON error: " ++ message
  | .toml message => "TOML parsing error: " ++ message

def help : Failure → Option String
  | .parse .. => some "Expected `stage --flag value | stage --flag \"quoted value\"`"
  | .unknownStage _ _ available => some ("Registered stage types: " ++ available)
  | .unresolvedReference .. =>
    some "A placeholder can only name a stage type that appears earlier in the pipeline"
  | .handler _ _ error => error.help
  | .invalidSettings _ help => help
  | _ => none

/-- The stage that a failure belongs to. -/
def stageIndex : Failure → Option Nat
  | .unknownStage _ index _ | .unresolvedReference _ _ index | .handler _ index _ => some index
  | _ => none

end Failure

end Stageflow
