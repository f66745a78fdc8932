import Stageflow.Settings
import Stageflow.Yaml.Writer

namespace Stageflow

open Yaml (Node)

def CommandSpec.ofYaml? (node : Node) : Option CommandSpec := do
  let entry ←
    node.record? ["program", "args", "input", "parse_json", "timeout_secs", "env", "description"]
  let program ← (← entry "program").string?
  let args ← Node.orElse? [] (fun node => do (← node.items?).mapM Node.string?) (entry "args")
  let input ←
    Node.orElse? .flags (fun node => node.alternative?.bind InputStyle.ofName?) (entry "input")
  let parseJson ← Node.orElse? false Node.bool? (entry "parse_json")
  let timeoutSecs ← Node.orElse? none (Node.nullable? Node.natural?) (entry "timeout_secs")
  let env ←
    Node.orElse? []
      (fun node => do (← node.named?).mapM fun entry => entry.2.string?.map (entry.1, ·))
      (entry "env")
  let description ← Node.orElse? none (Node.nullable? Node.string?) (entry "description")
  pure { program, args, input, parseJson, timeoutSecs, env := .ofList env, description }

/-- Settings as a document with what is left out at its default. Of two handlers with one stage
    type the later counts. -/
def Settings.ofYaml? (node : Node) : Option Settings := do
  let entry ← node.record? ["shell", "handlers", "disabled"]
  let shell ← Node.orElse? "bash" Node.string? (entry "shell")
  let handlers ←
    Node.orElse? []
      (fun node => do
        (← node.named?).mapM fun entry => (CommandSpec.ofYaml? entry.2).map (entry.1, ·))
      (entry "handlers")
  let disabled ← Node.orElse? [] (fun node => do (← node.items?).mapM Node.string?) (entry "disabled")
  pure { shell, handlers := .ofList handlers, disabled }

def CommandSpec.toDocument (spec : CommandSpec) : Json.Document :=
  .object
    [("program", .string spec.program), ("args", .array (spec.args.map .string)),
      ("input", .string spec.input.name), ("parse_json", .bool spec.parseJson),
      ("timeout_secs", spec.timeoutSecs.elim .null fun n => .number (.integer n)),
      ("env", .object (spec.env.entries.map fun entry => (entry.1, .string entry.2))),
      ("description", spec.description.elim .null .string)]

/-- Settings with every field written out. -/
def Settings.toDocument (settings : Settings) : Json.Document :=
  .object
    [("shell", .string settings.shell),
      ("handlers",
        .object (settings.handlers.entries.map fun entry => (entry.1, entry.2.toDocument))),
      ("disabled", .array (settings.disabled.map .string))]

def Settings.toYamlText (settings : Settings) : String :=
  Yaml.write settings.toDocument

/-- Reads settings from a stream with one document. -/
def Settings.ofYamlText? (text : String) : Option Settings :=
  (Yaml.parse? text).bind ofYaml?

end Stageflow
