import Stageflow.Failure.StageError

namespace Stageflow

/-- What a run leaves of one stage. -/
structure StageResult where
  /-- The place of the stage in its pipeline, counted from zero. -/
  index : Nat
  type : String
  /-- What the handler returned, if it did. -/
  output : Option Json
  error : Option StageError
  durationMs : Nat
  deriving BEq, Repr, Inhabited

def StageResult.succeeded (result : StageResult) : Bool :=
  result.error.isNone

/-- What a run leaves: a result for every stage that was reached, in order. -/
structure Trace where
  pipeline : String
  stages : List StageResult
  succeeded : Bool
  durationMs : Nat
  deriving BEq, Repr, Inhabited

namespace Trace

/-- The error of the first stage that has one. -/
def failure? (trace : Trace) : Option StageError :=
  trace.stages.findSome? (·.error)

/-- The output of the last stage of a run that succeeded. -/
def finalOutput? (trace : Trace) : Option Json :=
  if trace.succeeded then trace.stages.getLast?.bind (·.output) else none

/-- The failure that the first error stands for. -/
def error? (trace : Trace) : Option Failure :=
  trace.stages.findSome? fun stage => stage.error.map (·.toFailure stage.type)

/-- A trace without an error as it is, otherwise the failure that ended the run. -/
def toResult (trace : Trace) : Except Failure Trace :=
  match trace.error? with
  | some failure => .error failure
  | none => .ok trace

/-- The failure of the stage that the first error itself names. -/
def attributedFailure? (trace : Trace) : Option Failure :=
  trace.failure?.map fun error =>
    error.toFailure ((trace.stages[error.stageIndex]?.map (·.type)).getD "")

/-- The same trace as if no time had passed. -/
def untimed (trace : Trace) : Trace :=
  { trace with
    stages := trace.stages.map fun stage => { stage with durationMs := 0 }
    durationMs := 0 }

end Trace

end Stageflow
