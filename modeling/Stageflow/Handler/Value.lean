import Stageflow.Json.Reader
import Stageflow.Registry

namespace Stageflow.Handler

variable {σ : Type}

/-- Returns its text; without one, all its options. -/
def echo : Handler σ :=
  .pure "Return --text, or all options as a JSON object" fun options =>
    match options.text? "text" with
    | some text => .ok (.string text)
    | none => .ok options.toJson

/-- What is said about a value that is no JSON. -/
def invalidJson (error : Json.ReadError) : HandlerError :=
  ⟨s!"--value is not valid JSON: {error.message}",
    some "Wrap the JSON in single quotes: --value '\x7b\"key\": 1\x7d'"⟩

/-- Returns the JSON value that a text writes. -/
def json : Handler σ :=
  .pure "Parse --value as JSON" fun options =>
    match options.requireText "value" with
    | .error error => .error error
    | .ok text =>
      match Json.parse text with
      | .ok value => .ok value
      | .error error => .error (invalidJson error)

end Stageflow.Handler
