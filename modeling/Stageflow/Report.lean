import Stageflow.Placeholder
import Stageflow.Text.Lines
import Stageflow.Text.Quoted
import Stageflow.Trace

namespace Stageflow

/-- An option in a listing: a text between quotes, a flag in parentheses. -/
def optionLine (entry : String × OptionValue) : String :=
  match entry.2 with
  | .text s => s!"       --{entry.1} {Text.quoted s}\n"
  | .flag _ => s!"       --{entry.1} ({entry.2.display})\n"

/-- A stage in a listing, followed by its options. -/
def Stage.listing (index : Nat) (stage : Stage) : String :=
  s!"  {index + 1}. {stage.type}\n" ++ String.join (stage.options.entries.map optionLine)

/-- The name of a pipeline and its stages with their options. -/
def Pipeline.listing (pipeline : Pipeline) : String :=
  s!"Pipeline: {pipeline.name}\n" ++ String.join (pipeline.stages.mapIdx Stage.listing)

/-- Lines of a report that belong to the line above them, each behind four spaces. -/
def reportBlock (text : String) : String :=
  Text.indent 4 text ++ "\n"

/-- A stage that was reached, with its output or its error. -/
def StageResult.report (result : StageResult) : String :=
  match result.error with
  | some error =>
    s!"[{result.index}] {result.type} failed ({result.durationMs}ms)\n" ++ reportBlock error.display ++
      match error.help with
      | some help => reportBlock ("help: " ++ help)
      | none => ""
  | none =>
    let text := (result.output.map Json.insertionText).getD ""
    s!"[{result.index}] {result.type} ok ({result.durationMs}ms)\n" ++
      if text.isEmpty then "" else reportBlock text

/-- All stages that were reached. -/
def Trace.report (trace : Trace) : String :=
  String.join (trace.stages.map StageResult.report)

end Stageflow
