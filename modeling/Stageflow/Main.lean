import Stageflow.Cli.Program

namespace Stageflow

open Host (Machine Place FileTree FileNode)

/-- The variables of the environment that the program looks at. -/
def knownVariables : List String :=
  ["CLICOLOR_FORCE", "HOME", "NO_COLOR", "STAGEPIPE_CONFIG", "TERM", "XDG_CONFIG_HOME"]

/-- How deep directories are looked into. -/
def directoryDepth : Nat := 16

def placeOf (path : String) : Place :=
  ((path.splitOn "/").filter fun name => name ≠ "" ∧ name ≠ ".").reverse

/-- Copies the file at a path into a file tree, if there is one. -/
def copyFile (files : FileTree) (path : String) : IO FileTree := do
  try
    let bytes ← IO.FS.readBinFile path
    pure ((files.putDirectories (placeOf path).tail).put (placeOf path) (.file bytes.toList))
  catch _ => pure files

/-- Copies what an entry of a directory leads to into a file tree. -/
def copyEntry : Nat → FileTree → IO.FS.DirEntry → IO FileTree
  | 0, files, _ => pure files
  | depth + 1, files, entry => do
    let path := toString entry.path
    let entries ← try (some <$> entry.path.readDir) catch _ => pure none
    match entries with
    | none => copyFile files path
    | some entries =>
      entries.foldlM (fun files entry => copyEntry depth files entry)
        (files.putDirectories (placeOf path))

/-- A complaint as it is shown: a failure with its code and what may help, all others in a line. -/
def Cli.Complaint.report (complaint : Cli.Complaint) : String :=
  match complaint with
  | .failure cause =>
    s!"Error: {cause.code}\n\n  {complaint.message}\n" ++
      cause.help.elim "" fun help => s!"  help: {help}\n"
  | .usage _ => s!"error: {complaint.message}\n\nFor more information, try '--help'.\n"
  | _ => s!"Error: {complaint.message}\n"

/-- Writes the files that a run has made or changed. -/
def writeChanges (before after : FileTree) : IO Unit :=
  after.nodes.entries.forM fun (path, node) => do
    if before.nodes.get? path ≠ some node then
      match node with
      | .directory => IO.FS.createDirAll path
      | .file bytes => IO.FS.writeBinFile path ⟨bytes.toArray⟩
      | .program _ | .void => pure ()

/-- The machine at hand, as far as the program looks at it. -/
def currentMachine : IO Machine := do
  let here : IO.FS.DirEntry := ⟨← IO.currentDir, ""⟩
  let start := Machine.atDirectory (placeOf (toString here.path))
  let environment ← knownVariables.foldlM
    (fun environment name => do
      let value ← IO.getEnv name
      pure (value.elim environment (environment.insert name)))
    start.environment
  let machine := { start with environment }
  let files ← copyEntry directoryDepth machine.files here
  let files ← (Settings.userFile? machine).elim (pure files) (copyFile files)
  pure { machine with files }

end Stageflow

open Stageflow in
/-- Runs the program on the machine at hand. -/
def main (arguments : List String) : IO UInt32 := do
  let machine ← currentMachine
  let (outcome, after) := Cli.execute arguments machine
  writeChanges machine.files after.files
  IO.print outcome.output
  IO.eprint outcome.advice
  match outcome.result with
  | .ok () => pure ()
  | .error complaint => IO.eprint complaint.report
  return UInt32.ofNat outcome.exitCode
