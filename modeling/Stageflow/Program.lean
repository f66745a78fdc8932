import Stageflow.Shell.Run

namespace Stageflow

open Host (Machine FileError FileNode)

/-- A program with everything that it is started with. -/
structure Invocation where
  /-- A name to look for among the installed programs, or a path. -/
  program : String
  arguments : List String
  /-- Variables that are set in addition to those of the machine. -/
  environment : Table String := .empty
  /-- The directory in which the program works, if not that of the machine. -/
  directory : Option String := none
  input : List UInt8 := []

/-- What a program leaves when it has ended. -/
structure Completion where
  status : Nat
  output : List UInt8
  errors : List UInt8
  deriving DecidableEq, Repr

namespace Invocation

/-- How many steps a script may take. -/
def stepLimit : Nat := 1000000000

/-- The machine as the program sees it, in the directory in which it works. -/
def enter (invocation : Invocation) (machine : Machine) : Except FileError Machine :=
  match invocation.directory with
  | none => .ok machine
  | some directory => machine.enter directory

/-- What the installed program that is started does. A name without a slash is looked for among the
    installed programs, a path starts from the directory in which the program works. -/
def find (invocation : Invocation) (machine : Machine) : Except FileError String :=
  let texts :=
    invocation.program :: invocation.directory.toList ++ invocation.arguments ++
      invocation.environment.entries.flatMap fun (name, value) => [name, value]
  if texts.any fun text => text.toList.contains '\x00' then .error .zeroInArgument
  else
    match invocation.enter machine with
    | .error error => .error error
    | .ok inside =>
      let path? :=
        if invocation.program.toList.contains '/' then some invocation.program
        else machine.findProgram? invocation.program
      match path? with
      | none => .error .notFound
      | some path =>
        match inside.files.locate inside.directory path with
        | .error error => .error error
        | .ok (_, some (.program tool)) => .ok tool
        | .ok (_, none) => .error .notFound
        | .ok (_, some _) => .error .permissionDenied

/-- Runs a program to its end, or until the machine stops it. -/
def complete (invocation : Invocation) (tool : String) (machine : Machine) : Completion × Machine :=
  let inside := (invocation.enter machine).toOption.getD machine
  let environment :=
    invocation.environment.entries.foldl (fun table entry => table.insert entry.1 entry.2)
      inside.environment
  let leave (after : Machine) : Machine := { after with directory := machine.directory }
  let inside := inside.wait Shell.Session.programCost
  if inside.isOverdue then (⟨0, [], []⟩, leave inside)
  else
    match Shell.dialectOf? tool with
    | some dialect =>
      let s :=
        Shell.Session.start inside dialect invocation.program environment.entries
          #[invocation.input, [], []] [(0, .stream 0), (1, .stream 1), (2, .stream 2)]
      let (after, _) := Shell.runShell stepLimit invocation.arguments s
      let written (stream : Nat) : List UInt8 := (after.streams.getD stream []).reverse
      (⟨after.status, written 1, written 2⟩, leave after.machine)
    | none =>
      let result :=
        Shell.ToolCall.run
          ⟨tool, invocation.arguments, invocation.input, environment.entries⟩ inside
      (⟨result.status, result.output, result.errors⟩, leave result.machine)

/-- Starts a program and waits until it ends. -/
def run (invocation : Invocation) (machine : Machine) : Except FileError Completion × Machine :=
  match invocation.find machine with
  | .error error => (.error error, machine)
  | .ok tool =>
    let (completion, machine) := invocation.complete tool machine
    (.ok completion, machine)

/-- Starts a program and stops it if it has not ended after some seconds; then there is no
    completion. -/
def runWithin (invocation : Invocation) (seconds : Nat) (machine : Machine) :
    Except FileError (Option Completion) × Machine :=
  let limit := machine.clock + seconds * 1000000
  let deadline := (machine.deadline.map fun deadline => min deadline limit).getD limit
  let (outcome, after) := invocation.run { machine with deadline := some deadline }
  let after := { after with deadline := machine.deadline }
  match outcome with
  | .error error => (.error error, after)
  | .ok completion =>
    if limit < after.clock then (.ok none, { after with clock := limit })
    else (.ok (some completion), after)

end Invocation

end Stageflow
