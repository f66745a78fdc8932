import Stageflow.Json.Reader
import Stageflow.Json.Writer
import Stageflow.Program
import Stageflow.Registry
import Stageflow.Settings
import Stageflow.Text.Blank

namespace Stageflow

open Host (Machine)

namespace Completion

def succeeded (completion : Completion) : Bool :=
  completion.status == 0

/-- What the program printed, without the end of its last line. -/
def text (completion : Completion) : String :=
  Text.chomp (String.ofList (Text.decodeLossy completion.output))

/-- What a program that failed is reported with: its exit code, and its complaints if it had any. -/
def complaint (completion : Completion) (program : String) : HandlerError :=
  let complaints := Text.trimmed (String.ofList (Text.decodeLossy completion.errors))
  let code := s!"{program} exited with code {completion.status}"
  ⟨if complaints.isEmpty then code else code ++ ": " ++ complaints, none⟩

end Completion

namespace Handler

/-- Runs a shell command and returns what it prints. The shell is the stage's own choice or the
    usual one, and the command works in the stage's directory, if it names one. -/
def shell (usual : String) : Handler Machine :=
  { description := s!"Run --command with {usual} and return stdout"
    invoke := fun options machine =>
      match options.requireText "command" with
      | .error error => (.error error, machine)
      | .ok command =>
        if Text.isBlankText command then (.error ⟨"shell command is empty", none⟩, machine)
        else
          let shell := (options.text? "shell").getD usual
          let invocation : Invocation :=
            { program := shell, arguments := ["-c", command], directory := options.text? "cwd" }
          match invocation.run machine with
          | (.error error, machine) =>
            (.error ⟨s!"failed to start '{shell}': {error.message}",
              some s!"Shell '{shell}' may not be available"⟩, machine)
          | (.ok completion, machine) =>
            if completion.succeeded then (.ok (.string completion.text), machine)
            else (.error (completion.complaint "command"), machine) }

end Handler

namespace CommandSpec

/-- The path that the program of a declaration is started from. A name without a slash has to be
    that of an installed program. -/
def path? (spec : CommandSpec) (findProgram : String → Option String) : Option String :=
  if spec.program.toList.contains '/' then some spec.program else findProgram spec.program

/-- What is wrong with a declaration whose program is not found. -/
def missingProgram (spec : CommandSpec) : Failure :=
  .invalidSettings s!"program '{spec.program}' not found"
    (some s!"Install {spec.program} and ensure it's in your PATH, or give a path")

/-- Options as arguments: texts behind their names, and the names of the flags that are set. -/
def flagArguments (options : Options) : List String :=
  options.entries.flatMap fun entry =>
    match entry.2 with
    | .text text => ["--" ++ entry.1, text]
    | .flag true => ["--" ++ entry.1]
    | .flag false => []

/-- How the program of a declaration is started for the options of a stage. -/
def invocation (spec : CommandSpec) (path : String) (options : Options) : Invocation :=
  let common : Invocation :=
    { program := path, arguments := spec.args, environment := spec.env }
  match spec.input with
  | .flags => { common with arguments := spec.args ++ flagArguments options }
  | .json => { common with input := Text.encode options.toJson.compact.toList }

/-- What the output of a program becomes: a JSON value if that is wanted and possible, else a
    text. -/
def outputValue (spec : CommandSpec) (text : String) : Json :=
  if spec.parseJson then
    match Json.parse text with
    | .ok value => value
    | .error _ => .string text
  else .string text

/-- Runs the program of a declaration, for no longer than it may take. -/
def complete (spec : CommandSpec) (path : String) (options : Options) (machine : Machine) :
    Except HandlerError Completion × Machine :=
  let invocation := spec.invocation path options
  let (outcome, machine) :=
    match spec.timeoutSecs with
    | none =>
      let (outcome, machine) := invocation.run machine
      (outcome.map some, machine)
    | some seconds => invocation.runWithin seconds machine
  match outcome, spec.timeoutSecs with
  | .ok (some completion), _ => (.ok completion, machine)
  | .ok none, seconds =>
    (.error ⟨s!"'{spec.program}' timed out after {seconds.getD 0}s", none⟩, machine)
  | .error error, _ => (.error ⟨s!"failed to start '{path}': {error.message}", none⟩, machine)

/-- Runs the program that is started from a path and returns what it prints. -/
def handler (spec : CommandSpec) (path : String) : Handler Machine :=
  { description := spec.description.getD s!"Run {path}"
    invoke := fun options machine =>
      match spec.complete path options machine with
      | (.error error, machine) => (.error error, machine)
      | (.ok completion, machine) =>
        if completion.succeeded then (.ok (spec.outputValue completion.text), machine)
        else (.error (completion.complaint s!"'{spec.program}'"), machine) }

/-- The handler of a declaration, whose program has to be found. -/
def toHandler (spec : CommandSpec) (findProgram : String → Option String) :
    Except Failure (Handler Machine) :=
  match spec.path? findProgram with
  | some path => .ok (spec.handler path)
  | none => .error spec.missingProgram

end CommandSpec

end Stageflow
