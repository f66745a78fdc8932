import Stageflow.Handler.File
import Stageflow.Handler.Program
import Stageflow.Handler.Value

namespace Stageflow.Registry

open Host (Machine)

/-- The handlers that are always there. -/
def builtin (shell : String) : Registry Machine :=
  let registry := (empty : Registry Machine).register "echo" .echo
  let registry := registry.register "json" .json
  let registry := registry.register "read" .read
  registry.register "shell" (.shell shell)

/-- Registers a declared program. One that is not found is left out. -/
def declare (findProgram : String → Option String) (registry : Registry Machine)
    (declaration : String × CommandSpec) : Registry Machine :=
  match declaration.2.toHandler findProgram with
  | .ok handler => registry.register declaration.1 handler
  | .error _ => registry

/-- The registry of declarations in any order: the built-in handlers, which declared programs
    replace, without those that are disabled. -/
def ofDeclarations (findProgram : String → Option String) (shell : String)
    (declarations : List (String × CommandSpec)) (disabled : List String) : Registry Machine :=
  disabled.foldl unregister (declarations.foldl (declare findProgram) (builtin shell))

/-- The registry of settings. -/
def ofSettings (findProgram : String → Option String) (settings : Settings) : Registry Machine :=
  ofDeclarations findProgram settings.shell settings.handlers.entries settings.disabled

end Stageflow.Registry
