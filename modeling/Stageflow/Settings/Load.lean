import Stageflow.Host.Machine
import Stageflow.Settings.Toml
import Stageflow.Settings.Yaml

namespace Stageflow

/-- The extension of a path: what follows the last point of its last name, unless that point is the
    first character of the name. Slashes and single points at the end of a path do not count. -/
def pathExtension? (path : String) : Option String :=
  match ((path.splitOn "/").filter fun name => name ≠ "" ∧ name ≠ ".").getLast? with
  | none => none
  | some name =>
    if name = ".." then none
    else
      match name.toList.reverse.dropWhile (· != '.') with
      | [] => none
      | [_] => none
      | _ :: _ => some (String.ofList (name.toList.reverse.takeWhile (· != '.')).reverse)

namespace Settings

open Host (Machine)

/-- Reads settings from a text, in TOML if its file has that extension and in YAML if not. -/
def ofFileText (path text : String) : Except Failure Settings :=
  if pathExtension? path = some "toml" then
    match ofTomlText? text with
    | some settings => .ok settings
    | none => .error (.toml "the document is no settings table")
  else
    match ofYamlText? text with
    | some settings => .ok settings
    | none => .error (.yaml "the document is no settings mapping")

/-- The settings in a file; if there is none, the defaults. -/
def load (machine : Machine) (path : String) : Except Failure Settings := do
  if !machine.files.pathExists machine.directory path then pure {}
  else
    match machine.files.readText machine.directory path with
    | .error error => throw (.io error.message)
    | .ok text =>
      let settings ← ofFileText path text
      settings.validate
      pure settings

/-- The settings in a file that has to be there. -/
def loadRequired (machine : Machine) (path : String) : Except Failure Settings :=
  if machine.files.pathExists machine.directory path then load machine path
  else .error (.settingsNotFound path)

/-- The names of a project's settings files, in the order in which they are looked for. -/
def projectFiles : List String :=
  [".stagepipe.yaml", ".stagepipe.yml", ".stagepipe.toml"]

/-- The path of a name in a directory. -/
def joinPath (directory name : String) : String :=
  if directory.isEmpty ∨ directory.toList.getLast? = some '/' then directory ++ name
  else directory ++ "/" ++ name

/-- The user's own settings file. It lies below the directory for settings, if the environment names
    one by an absolute path, and below the home directory if not. -/
def userFile? (machine : Machine) : Option String :=
  let isAbsolute (path : String) : Bool := path.toList.head? == some '/'
  match (machine.environment.get? "XDG_CONFIG_HOME").filter isAbsolute with
  | some directory => some (joinPath directory "stagepipe/config.yaml")
  | none =>
    ((machine.environment.get? "HOME").filter fun home => !home.isEmpty).map fun home =>
      joinPath home ".config/stagepipe/config.yaml"

/-- The settings file for a directory: the first of the project's, else the user's. -/
def find? (machine : Machine) (directory : String) : Option String :=
  let candidates := projectFiles.map (joinPath directory) ++ (userFile? machine).toList
  candidates.find? (machine.files.pathExists machine.directory)

/-- The settings for a directory. -/
def discover (machine : Machine) (directory : String) : Except Failure Settings :=
  match find? machine directory with
  | some path => load machine path
  | none => .ok {}

end Settings

end Stageflow
