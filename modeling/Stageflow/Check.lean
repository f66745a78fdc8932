import Stageflow.Placeholder
import Stageflow.Registry

namespace Stageflow

/-- A stage without a handler. -/
structure UnknownStage where
  index : Nat
  type : String
  deriving DecidableEq, Repr

/-- A placeholder that names a stage type which does not run before it. -/
structure DanglingReference where
  index : Nat
  type : String
  option : String
  reference : String
  deriving DecidableEq, Repr

def UnknownStage.message (stage : UnknownStage) : String :=
  s!"Stage {stage.index} ('{stage.type}'): no handler registered for this stage type"

def DanglingReference.message (dangling : DanglingReference) : String :=
  s!"Stage {dangling.index} ('{dangling.type}'): --{dangling.option} references " ++
    s!"'\x7b\x7b{dangling.reference}\x7d\x7d' which does not run before it"

structure Findings where
  unknown : List UnknownStage
  dangling : List DanglingReference
  deriving DecidableEq, Repr

namespace Findings

def errors (findings : Findings) : List String :=
  findings.unknown.map (·.message)

def warnings (findings : Findings) : List String :=
  findings.dangling.map (·.message)

/-- Only stages without a handler make a pipeline invalid. -/
def isValid (findings : Findings) : Bool :=
  findings.unknown.isEmpty

def hasWarnings (findings : Findings) : Bool :=
  !findings.warnings.isEmpty

end Findings

/-- The placeholders of a stage that name none of the earlier stage types, in the order of the
    options and from left to right. -/
def Stage.dangling (index : Nat) (earlier : List String) (stage : Stage) : List DanglingReference :=
  stage.options.entries.flatMap fun entry =>
    match entry.2.text? with
    | none => []
    | some text =>
      ((Placeholder.references text).filter fun reference => !earlier.contains reference).map
        fun reference => ⟨index, stage.type, entry.1, reference⟩

/-- Checks stages, the first of which has the given number and runs after the given types. -/
def checkStages {σ : Type} (registry : Registry σ) (index : Nat) (earlier : List String) :
    List Stage → Findings
  | [] => ⟨[], []⟩
  | stage :: stages =>
    let rest := checkStages registry (index + 1) (stage.type :: earlier) stages
    { unknown := if registry.has stage.type then rest.unknown else ⟨index, stage.type⟩ :: rest.unknown
      dangling := stage.dangling index earlier ++ rest.dangling }

/-- Looks through a whole pipeline before it runs. -/
def Pipeline.check {σ : Type} (pipeline : Pipeline) (registry : Registry σ) : Findings :=
  checkStages registry 0 [] pipeline.stages

end Stageflow
