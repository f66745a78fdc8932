import Stageflow.Host.FileTree

namespace Stageflow.Host

/-- The machine that handlers work on: its files, the directory that paths start from, the
    variables of the environment, and a clock that counts microseconds. -/
structure Machine where
  files : FileTree
  directory : Place
  environment : Table String
  clock : Nat
  /-- The time at which running programs are stopped, if there is one. -/
  deadline : Option Nat
  deriving DecidableEq, Repr

namespace Machine

/-- The programs that every machine has. -/
def installed : List String :=
  ["[", "basename", "bash", "cat", "dash", "dirname", "echo", "env", "false", "head", "ls", "mkdir",
    "printenv", "printf", "pwd", "rev", "rm", "seq", "sh", "sleep", "sort", "tail", "tee", "test",
    "touch", "tr", "true", "uniq", "wc"]

/-- The directories of installed programs, in the order in which they are searched. -/
def programDirectories : List Place :=
  [["bin", "usr"], ["bin"]]

/-- The files that every machine has. -/
def systemFiles : FileTree :=
  let directories := ["tmp"] :: ["dev"] :: programDirectories
  let tree := directories.foldl FileTree.putDirectories .empty
  let tree := tree.put ["null", "dev"] .void
  programDirectories.foldl
    (fun tree directory =>
      installed.foldl (fun tree name => tree.put (name :: directory) (.program name)) tree)
    tree

/-- A machine that works in a directory of its own. -/
def atDirectory (directory : Place) : Machine :=
  { files := systemFiles.putDirectories directory
    directory
    environment := .ofList [("PATH", ":".intercalate (programDirectories.map Place.path))]
    clock := 0
    deadline := none }

/-- What reading a file costs, in microseconds. -/
def readCost : Nat := 1000

def wait (machine : Machine) (microseconds : Nat) : Machine :=
  { machine with clock := machine.clock + microseconds }

/-- Whether the time at which programs are stopped has passed. -/
def isOverdue (machine : Machine) : Bool :=
  match machine.deadline with
  | some deadline => deadline < machine.clock
  | none => false

def milliseconds (machine : Machine) : Nat :=
  machine.clock / 1000

/-- The directories in which programs are looked for, in order. -/
def searchPath (machine : Machine) : List String :=
  match machine.environment.get? "PATH" with
  | some path => path.splitOn ":"
  | none => programDirectories.map Place.path

/-- The path at which an installed program is found. -/
def findProgram? (machine : Machine) (name : String) : Option String :=
  (machine.searchPath.map fun directory => directory ++ "/" ++ name).find? fun path =>
    match machine.files.locate machine.directory path with
    | .ok (_, some (.program _)) => !name.isEmpty
    | _ => false

/-- Changes the directory that paths start from. -/
def enter (machine : Machine) (path : String) : Except FileError Machine :=
  match machine.files.locate machine.directory path with
  | .error error => .error error
  | .ok (_, none) => .error .notFound
  | .ok (place, some .directory) => .ok { machine with directory := place }
  | .ok (_, some _) => .error .notDirectory

end Machine

end Stageflow.Host
