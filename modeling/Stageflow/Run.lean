import Stageflow.Placeholder
import Stageflow.Registry
import Stageflow.Trace

namespace Stageflow

variable {σ : Type}

namespace Pipeline

/-- Looks up the handlers of stages, the first of which has the given number, and fails at the
    first stage whose type has none. -/
def preflightFrom (registry : Registry σ) (index : Nat) : List Stage → Except Failure Unit
  | [] => .ok ()
  | stage :: stages =>
    match registry.resolve stage.type index with
    | .error failure => .error failure
    | .ok _ => preflightFrom registry (index + 1) stages

/-- Fails if there is a stage without a handler. -/
def preflight (pipeline : Pipeline) (registry : Registry σ) : Except Failure Unit :=
  preflightFrom registry 0 pipeline.stages

/-- Runs one stage: resolves its placeholders and calls its handler with the result. -/
def runStage (registry : Registry σ) (index : Nat) (stage : Stage) (outputs : Outputs) (s : σ) :
    Except Failure Json × σ :=
  match registry.resolve stage.type index with
  | .error failure => (.error failure, s)
  | .ok handler =>
    match outputs.resolve stage.options with
    | .error reference => (.error (.unresolvedReference reference stage.type index), s)
    | .ok options =>
      match handler.invoke options s with
      | (.ok output, s) => (.ok output, s)
      | (.error error, s) => (.error (.handler stage.type index error), s)

/-- Runs stages one after the other up to the first that fails, the first of them with the given
    number and outputs. Returns the results, whether every stage succeeded, and the state. -/
def runStages (clock : σ → Nat) (registry : Registry σ) (index : Nat) (outputs : Outputs) (s : σ) :
    List Stage → List StageResult × Bool × σ
  | [] => ([], true, s)
  | stage :: stages =>
    match runStage registry index stage outputs s with
    | (.error failure, after) =>
      ([⟨index, stage.type, none, some (.ofFailure failure index), clock after - clock s⟩], false,
        after)
    | (.ok output, after) =>
      let (results, succeeded, final) :=
        runStages clock registry (index + 1) (outputs.insert stage.type output) after stages
      (⟨index, stage.type, some output, none, clock after - clock s⟩ :: results, succeeded, final)

/-- Runs a pipeline. A stage without a handler is found before anything runs; what goes wrong later
    is recorded in the trace. Durations are read off the clock in the state. -/
def execute (pipeline : Pipeline) (clock : σ → Nat) (registry : Registry σ) (s : σ) :
    Except Failure Trace × σ :=
  match pipeline.preflight registry with
  | .error failure => (.error failure, s)
  | .ok () =>
    let (results, succeeded, final) := runStages clock registry 0 .empty s pipeline.stages
    (.ok ⟨pipeline.name, results, succeeded, clock final - clock s⟩, final)

def run (expression : String) (clock : σ → Nat) (registry : Registry σ) (s : σ) :
    Except Failure Trace × σ :=
  match parse expression with
  | .error failure => (.error failure, s)
  | .ok pipeline => pipeline.execute clock registry s

end Pipeline

end Stageflow
