import Stageflow.Json.Reader
import Stageflow.Trace

namespace Stageflow

open Json (Document)

namespace StageResult

/-- A stage's result as a JSON object. An output that is absent is written as null, an error that
    is absent is left out. -/
def toDocument (result : StageResult) : Document :=
  .object
    ([("index", .number (.integer result.index)), ("type", .string result.type),
        ("output", (result.output.map Json.toDocument).getD .null)] ++
      (result.error.toList.map fun error => ("error", error.toDocument)) ++
      [("duration_ms", .number (.integer result.durationMs))])

/-- Reads an output. The whole text may nest 127 levels, three of which surround every output. -/
def outputOfDocument? (doc : Document) : Option Json :=
  if doc.isReadable && doc.depth ≤ 124 then some doc.value else none

def ofDocument? (doc : Document) : Option StageResult := do
  let member ← doc.record? ["index", "type", "output", "error", "duration_ms"]
  let index ← (← member "index").natural?
  let type ← (← member "type").string?
  let output ← Document.optional? outputOfDocument? (member "output")
  let error ← Document.optional? StageError.ofDocument? (member "error")
  let durationMs ← (← member "duration_ms").natural?
  pure ⟨index, type, output, error, durationMs⟩

end StageResult

namespace Trace

def toDocument (trace : Trace) : Document :=
  .object
    [("pipeline", .string trace.pipeline),
      ("stages", .array (trace.stages.map StageResult.toDocument)),
      ("succeeded", .bool trace.succeeded),
      ("duration_ms", .number (.integer trace.durationMs))]

def ofDocument? (doc : Document) : Option Trace := do
  let member ← doc.record? ["pipeline", "stages", "succeeded", "duration_ms"]
  let pipeline ← (← member "pipeline").string?
  let stages ← (← (← member "stages").items?).mapM StageResult.ofDocument?
  let succeeded ← (← member "succeeded").bool?
  let durationMs ← (← member "duration_ms").natural?
  pure ⟨pipeline, stages, succeeded, durationMs⟩

/-- The trace as JSON text, one member a line. -/
def toJsonText (trace : Trace) : String :=
  trace.toDocument.pretty

def ofJsonText? (text : String) : Option Trace :=
  (Document.parse? text).bind ofDocument?

end Trace

end Stageflow
