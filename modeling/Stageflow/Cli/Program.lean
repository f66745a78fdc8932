import Stageflow.Cli.Command
import Stageflow.Registry.Standard
import Stageflow.Settings.Load

namespace Stageflow.Cli

open Host (Machine)

/-- The name and version that the program gives itself. -/
def versionText : String :=
  "stagepipe 0.1.0\n"

def usageText : String :=
  String.join
    ([ "Parse and run inline stage pipelines",
        "",
        "Usage: stagepipe [OPTIONS] <COMMAND>",
        "",
        "Commands:",
        "  run       Parse and execute a pipeline expression",
        "  parse     Show how an expression is parsed",
        "  check     Check an expression against the registered handlers without running it",
        "  handlers  List registered stage types",
        "",
        "Options:",
        "  -v, --verbose          Enable verbose output",
        "  -C, --directory <DIR>  Change to directory before executing",
        "      --config <FILE>    Settings file (default: .stagepipe.yaml, then the user config)",
        "  -h, --help             Print help",
        "  -V, --version          Print version" ].map line)

/-- What is printed for a command line that is no request. -/
def Stop.outcome : Stop → Outcome
  | .version => .done versionText
  | .help => .done usageText
  | .refused fault => .failed "" (.usage fault)

/-- The settings for a machine: those of a file that has to be there, or those that belong to the
    directory. -/
def loadSettings (machine : Machine) : Option String → Except Failure Settings
  | some path => Settings.loadRequired machine path
  | none => Settings.discover machine machine.directory.path

/-- Does what a request asks for, in the directory that the machine works in. -/
def Request.perform (request : Request) (machine : Machine) : Outcome × Machine :=
  let palette := Palette.ofEnvironment machine.environment
  /- Loads the registry for a command that prints something before it is loaded. -/
  let withRegistry (output : String) (f : Registry Machine → Outcome × Machine) :
      Outcome × Machine :=
    match loadSettings machine request.settingsFile with
    | .error failure => (.failed output (.failure failure), machine)
    | .ok settings => f (.ofSettings machine.findProgram? settings)
  match request.action with
  | .parse expression format => (parse format expression, machine)
  | .handlers format =>
    withRegistry "" fun registry => (listHandlers palette format registry, machine)
  | .check expression =>
    withRegistry (checkHeader palette) fun registry =>
      (check palette request.verbose registry expression, machine)
  | .run expression format limit =>
    withRegistry "" fun registry =>
      let deadline := limit.map fun seconds => machine.clock + seconds * 1000000
      run palette format limit request.verbose Machine.milliseconds registry expression
        { machine with deadline }

def execute (arguments : List String) (machine : Machine) : Outcome × Machine :=
  match Request.read (machine.environment.get? "STAGEPIPE_CONFIG") arguments with
  | .error stop => (stop.outcome, machine)
  | .ok request =>
    match request.directory with
    | none => request.perform machine
    | some path =>
      match machine.enter path with
      | .error error => (.failed "" (.directory path error.message), machine)
      | .ok inside => request.perform inside

end Stageflow.Cli
