import Stageflow.Pipeline.Document
import Stageflow.Proofs.Json.Record
import Stageflow.Proofs.Options.Merge

namespace Stageflow

open Json (Document)

namespace OptionValue

theorem exact_toDocument (value : OptionValue) : value.toDocument.Exact := by
  cases value with
  | text => exact .string
  | flag => exact .bool

/-- A text is written as a string and a flag as a boolean, so that neither is taken for the
    other. -/
theorem ofDocument?_toDocument (value : OptionValue) : ofDocument? value.toDocument = some value := by
  cases value <;> rfl

end OptionValue

namespace Options

theorem exact_toDocument (options : Options) : options.toDocument.Exact :=
  .object (List.forall_mem_map.2 fun entry _ => entry.2.exact_toDocument)

/-- Setting the entries of options one after the other gives the options. -/
theorem ofList_entries (options : Options) : ofList options.entries = options :=
  (merges_ofList options.entries).unique options.merges_self

theorem ofDocument?_toDocument (options : Options) : ofDocument? options.toDocument = some options := by
  rw [toDocument, ofDocument?, mapM_map_of_forall id, List.map_id]
  · exact congrArg some options.ofList_entries
  · intro entry _
    dsimp only
    rw [entry.2.ofDocument?_toDocument]
    rfl

end Options

namespace Stage

theorem exact_toDocument (stage : Stage) : stage.toDocument.Exact :=
  .object (by simp [Document.Exact.string, stage.options.exact_toDocument])

theorem ofDocument?_toDocument (stage : Stage) : ofDocument? stage.toDocument = some stage := by
  have hrecord : stage.toDocument.record? ["type", "config"] =
      some fun name =>
        lookup name [("type", .string stage.type), ("config", stage.options.toDocument)] := by
    rfl
  simp only [ofDocument?, hrecord]
  simp [lookup, Document.string?, stage.options.ofDocument?_toDocument]

end Stage

namespace Pipeline

theorem exact_toDocument (pipeline : Pipeline) : pipeline.toDocument.Exact := by
  have hstages : (Document.array (pipeline.stages.map Stage.toDocument)).Exact :=
    .array (List.forall_mem_map.2 fun stage _ => stage.exact_toDocument)
  exact .object (by simp [Document.Exact.string, hstages])

theorem ofDocument?_toDocument (pipeline : Pipeline) :
    ofDocument? pipeline.toDocument = some pipeline := by
  have hrecord : pipeline.toDocument.record? ["name", "stages"] =
      some fun name =>
        lookup name [("name", .string pipeline.name),
          ("stages", .array (pipeline.stages.map Stage.toDocument))] := by
    rfl
  have hstages : (pipeline.stages.map Stage.toDocument).mapM Stage.ofDocument? =
      some pipeline.stages := by
    rw [mapM_map_of_forall id fun stage _ => stage.ofDocument?_toDocument, List.map_id]
  simp only [ofDocument?, hrecord]
  simp [lookup, Document.string?, Document.items?, hstages]

/-- Reading a pipeline from its JSON text gives it back: its name, its stages, and their options in
    order, whatever texts they hold. -/
theorem ofJsonText?_toJsonText (pipeline : Pipeline) :
    ofJsonText? pipeline.toJsonText = some pipeline := by
  rw [ofJsonText?, toJsonText, pipeline.exact_toDocument.parse?_pretty, Option.bind_some,
    pipeline.ofDocument?_toDocument]

end Pipeline

end Stageflow
