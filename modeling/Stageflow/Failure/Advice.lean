import Stageflow.Failure

namespace Stageflow

/-- What a reader may do about a failure. -/
structure Advice where
  action : String
  steps : List String
  examples : List String
  deriving DecidableEq, Repr

/-- How many characters two texts have in common at their start. -/
def sharedStart : List Char → List Char → Nat
  | a :: as, b :: bs => if a = b then sharedStart as bs + 1 else 0
  | _, _ => 0

/-- The candidate that shares the longest start with a name, at least two characters. Of several
    the last one is taken. -/
def closest (name : String) (candidates : List String) : Option String :=
  candidates.foldl
    (fun best candidate =>
      let shared := sharedStart candidate.toList name.toList
      if shared < 2 then best
      else
        match best with
        | some earlier =>
          if shared < sharedStart earlier.toList name.toList then best else some candidate
        | none => some candidate)
    none

/-- Whether one text occurs in another. -/
def occursIn (part : List Char) : List Char → Bool
  | [] => part.isEmpty
  | c :: cs => part.isPrefixOf (c :: cs) || occursIn part cs

namespace Advice

def fixExpression (message : String) : Advice :=
  let mentions (part : String) : Bool := occursIn part.toList message.toList
  { action := "Fix the pipeline expression"
    steps :=
      ["The parser reported: " ++ message] ++
        (if mentions "unterminated" then
          ["Close every opening quote with the same quote character"]
        else []) ++
        (if mentions "no stage type" then
          ["Every segment between `|` must start with a stage type",
            "Remove doubled or trailing pipe characters"]
        else []) ++
        ["Quote values that contain spaces or `|`"]
    examples :=
      ["fetch --url http://example.com | analyze --prompt \"Summarize \x7b\x7bfetch\x7d\x7d\"",
        "shell --command 'ls | wc -l'"] }

def registerStage (type : String) (available : List String) : Advice :=
  { action := s!"Register a handler for '{type}'"
    steps :=
      [s!"No handler is registered for '{type}'"] ++
        ((closest type available).toList.map fun close => s!"Did you mean '{close}'?") ++
        ["Declare an external command handler in .stagepipe.yaml"]
    examples :=
      [s!"handlers:\n  {type}:\n    program: ./scripts/{type}.py\n    input: flags"] }

def reorderStages (reference : String) : Advice :=
  { action := s!"Run '{reference}' before the stage that references it"
    steps :=
      [s!"'\x7b\x7b{reference}\x7d\x7d' only resolves after a '{reference}' stage completes",
        "Move the referenced stage to the left of the referencing one",
        "Check the placeholder for typos"]
    examples := [s!"{reference} ... | next --input \"\x7b\x7b{reference}\x7d\x7d\""] }

def inspectStage (type : String) : Advice :=
  { action := s!"Inspect the '{type}' stage"
    steps :=
      ["The handler reported an error; stages after it were not run",
        "Re-run with --verbose to see stage-level logs"]
    examples := [] }

def checkSettings : Advice :=
  { action := "Check the settings file"
    steps := ["Validate .stagepipe.yaml against the documented fields"]
    examples := [] }

/-- The advice for a failure, given the stage types that are registered. -/
def ofFailure? (failure : Failure) (available : List String) : Option Advice :=
  match failure with
  | .parse message _ => some (fixExpression message)
  | .unknownStage type _ _ => some (registerStage type available)
  | .unresolvedReference reference _ _ => some (reorderStages reference)
  | .handler type _ _ => some (inspectStage type)
  | .settingsNotFound _ | .invalidSettings .. => some checkSettings
  | .io _ | .yaml _ | .json _ | .toml _ => none

/-- The advice as text: the action, its numbered steps, and examples behind a blank line. -/
def text (advice : Advice) : String :=
  let steps := advice.steps.mapIdx fun i step => s!"  {i + 1}. {step}\n"
  let examples := advice.examples.map fun line => s!"  {line}\n"
  advice.action ++ "\n" ++ String.join steps ++
    if examples.isEmpty then "" else "\nExample:\n" ++ String.join examples

end Advice

end Stageflow
