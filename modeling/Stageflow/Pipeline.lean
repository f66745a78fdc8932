import Stageflow.Json.Value
import Stageflow.Options

namespace Stageflow

/-- One stage of a pipeline: a stage type and the options for its handler. -/
structure Stage where
  type : String
  options : Options
  deriving DecidableEq, Repr, Inhabited

/-- Stages in the order in which they run, under a name for reports. -/
structure Pipeline where
  name : String
  stages : List Stage
  deriving DecidableEq, Repr, Inhabited

def Pipeline.types (pipeline : Pipeline) : List String :=
  pipeline.stages.map (·.type)

end Stageflow
