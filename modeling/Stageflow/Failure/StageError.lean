import Stageflow.Failure
import Stageflow.Json.Record
import Stageflow.Json.Writer

namespace Stageflow

open Json (Document)

/-- What the trace of a run keeps of the failure of a stage. -/
structure StageError where
  kind : FailureKind
  message : String
  stageIndex : Nat
  /-- The placeholder that had no output. -/
  reference : Option String
  help : Option String
  deriving DecidableEq, Repr, Inhabited

namespace StageError

/-- Records a failure that arose at a stage. The failure of a handler keeps the handler's own
    message, every other one is recorded with its full sentence. -/
def ofFailure (failure : Failure) (stageIndex : Nat) : StageError :=
  let index := failure.stageIndex.getD stageIndex
  match failure with
  | .handler _ _ error => ⟨.handler, error.message, index, none, error.help⟩
  | .unresolvedReference reference _ _ =>
    ⟨.unresolvedReference, failure.message, index, some reference, none⟩
  | _ => ⟨failure.kind, failure.message, index, none, none⟩

/-- The failure that a record stands for at a stage of the given type. Whatever names no
    unresolved reference counts as the failure of a handler. -/
def toFailure (error : StageError) (type : String) : Failure :=
  match error.kind, error.reference with
  | .unresolvedReference, some reference => .unresolvedReference reference type error.stageIndex
  | _, _ => .handler type error.stageIndex ⟨error.message, error.help⟩

/-- The record in one line for reports. -/
def display (error : StageError) : String :=
  s!"[{error.kind.name}] {error.message}"

/-- The record as a JSON object; a reference or hint that is absent is left out. -/
def toDocument (error : StageError) : Document :=
  let optional (name : String) (text : Option String) : List (String × Document) :=
    text.toList.map fun s => (name, .string s)
  .object
    ([("kind", .string error.kind.name), ("message", .string error.message),
        ("stage_index", .number (.integer error.stageIndex))] ++
      optional "reference" error.reference ++ optional "help" error.help)

def ofDocument? (doc : Document) : Option StageError := do
  let member ← doc.record? ["kind", "message", "stage_index", "reference", "help"]
  let kind ← FailureKind.ofName? (← (← member "kind").alternative?)
  let message ← (← member "message").string?
  let stageIndex ← (← member "stage_index").natural?
  let reference ← Document.optional? Document.string? (member "reference")
  let help ← Document.optional? Document.string? (member "help")
  pure ⟨kind, message, stageIndex, reference, help⟩

end StageError

end Stageflow
