import Stageflow.Settings
import Stageflow.Toml.Reader

namespace Stageflow

open Toml (Value)

namespace Toml.Value

def string? : Value → Option String
  | .string s => some s
  | _ => none

def bool? : Value → Option Bool
  | .bool b => some b
  | _ => none

def natural? : Value → Option Nat
  | .integer (.ofNat n) => some n
  | _ => none

def items? : Value → Option (List Value)
  | .array items => some items
  | _ => none

def entries? : Value → Option (List (String × Value))
  | .table entries => some entries
  | _ => none

/-- The entries of a record with the given names: a table, or an array of its entries in order. -/
def record? (names : List String) : Value → Option (String → Option Value)
  | .table entries => some fun name => lookup name entries
  | .array items => some fun name => lookup name (names.zip items)
  | _ => none

/-- An entry of a record that may be left out. -/
def orElse? {α : Type} (default : α) (read : Value → Option α) : Option Value → Option α
  | none => some default
  | some value => read value

/-- The name of an alternative without content: a string, or a table whose only entry has that name
    and holds nothing. -/
def alternative? : Value → Option String
  | .string s => some s
  | .table [(name, .table [])] | .table [(name, .array [])] => some name
  | _ => none

end Toml.Value

def CommandSpec.ofToml? (value : Value) : Option CommandSpec := do
  let entry ←
    value.record? ["program", "args", "input", "parse_json", "timeout_secs", "env", "description"]
  let program ← (← entry "program").string?
  let args ← Value.orElse? [] (fun value => do (← value.items?).mapM Value.string?) (entry "args")
  let input ←
    Value.orElse? .flags (fun value => value.alternative?.bind InputStyle.ofName?) (entry "input")
  let parseJson ← Value.orElse? false Value.bool? (entry "parse_json")
  let timeoutSecs ← Value.orElse? none (fun value => value.natural?.map some) (entry "timeout_secs")
  let env ←
    Value.orElse? []
      (fun value => do (← value.entries?).mapM fun entry => entry.2.string?.map (entry.1, ·))
      (entry "env")
  let description ← Value.orElse? none (fun value => value.string?.map some) (entry "description")
  pure { program, args, input, parseJson, timeoutSecs, env := .ofList env, description }

/-- Settings as a document with what is left out at its default. -/
def Settings.ofToml? (value : Value) : Option Settings := do
  let entry ← value.record? ["shell", "handlers", "disabled"]
  let shell ← Value.orElse? "bash" Value.string? (entry "shell")
  let handlers ←
    Value.orElse? []
      (fun value => do
        (← value.entries?).mapM fun entry => (CommandSpec.ofToml? entry.2).map (entry.1, ·))
      (entry "handlers")
  let disabled ←
    Value.orElse? [] (fun value => do (← value.items?).mapM Value.string?) (entry "disabled")
  pure { shell, handlers := .ofList handlers, disabled }

def Settings.ofTomlText? (text : String) : Option Settings :=
  (Toml.parse? text).bind ofToml?

end Stageflow
