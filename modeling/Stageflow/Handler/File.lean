import Stageflow.Host.Machine
import Stageflow.Registry

namespace Stageflow.Handler

open Host (Machine)

/-- Returns the text of a file. -/
def read : Handler Machine :=
  { description := "Read the file at --path"
    invoke := fun options machine =>
      match options.requireText "path" with
      | .error error => (.error error, machine)
      | .ok path =>
        let reply :=
          match machine.files.readText machine.directory path with
          | .ok text => .ok (.string text)
          | .error error => .error ⟨s!"failed to read '{path}': {error.message}", none⟩
        (reply, machine.wait Machine.readCost) }

end Stageflow.Handler
