import Stageflow.Json.Reader
import Stageflow.Json.Record
import Stageflow.Json.Writer
import Stageflow.Pipeline

namespace Stageflow

open Json (Document)

namespace OptionValue

def toDocument : OptionValue → Document
  | .text s => .string s
  | .flag b => .bool b

def ofDocument? : Document → Option OptionValue
  | .string s => some (.text s)
  | .bool b => some (.flag b)
  | _ => none

end OptionValue

namespace Options

/-- The options as an object that keeps their order. -/
def toDocument (options : Options) : Document :=
  .object (options.entries.map fun entry => (entry.1, entry.2.toDocument))

/-- Reads options from an object. A name that occurs again keeps its place and takes its last
    value. -/
def ofDocument? : Document → Option Options
  | .object members => do
    let entries ← members.mapM fun (name, doc) => do
      let value ← OptionValue.ofDocument? doc
      pure (name, value)
    pure (ofList entries)
  | _ => none

end Options

namespace Stage

def toDocument (stage : Stage) : Document :=
  .object [("type", .string stage.type), ("config", stage.options.toDocument)]

def ofDocument? (doc : Document) : Option Stage := do
  let member ← doc.record? ["type", "config"]
  let type ← (← member "type").string?
  let options ← Options.ofDocument? (← member "config")
  pure ⟨type, options⟩

end Stage

namespace Pipeline

def toDocument (pipeline : Pipeline) : Document :=
  .object [("name", .string pipeline.name), ("stages", .array (pipeline.stages.map Stage.toDocument))]

def ofDocument? (doc : Document) : Option Pipeline := do
  let member ← doc.record? ["name", "stages"]
  let name ← (← member "name").string?
  let stages ← (← (← member "stages").items?).mapM Stage.ofDocument?
  pure ⟨name, stages⟩

/-- The pipeline as JSON text, one member a line. -/
def toJsonText (pipeline : Pipeline) : String :=
  pipeline.toDocument.pretty

def ofJsonText? (text : String) : Option Pipeline :=
  (Document.parse? text).bind ofDocument?

end Pipeline

end Stageflow
