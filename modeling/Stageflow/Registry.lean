import Stageflow.Failure
import Stageflow.Text.Quoted

namespace Stageflow

/-- What performs the work of a stage. A handler answers to the stage's options, in which every
    placeholder is already resolved, and may change the state `σ` around it: its own memory as much
    as files and clocks. -/
structure Handler (σ : Type) where
  description : String
  invoke : Options → σ → Except HandlerError Json × σ

namespace Handler

variable {σ τ : Type}

/-- A handler that changes nothing. -/
def pure (description : String) (reply : Options → Except HandlerError Json) : Handler σ :=
  ⟨description, fun options s => (reply options, s)⟩

/-- A handler for a part of a larger state. -/
def within (handler : Handler σ) (part : τ → σ) (update : σ → τ → τ) : Handler τ :=
  { description := handler.description
    invoke := fun options s =>
      let (reply, inner) := handler.invoke options (part s)
      (reply, update inner s) }

theorem invoke_within (handler : Handler σ) (part : τ → σ) (update : σ → τ → τ) (options : Options)
    (s : τ) :
    (handler.within part update).invoke options s =
      ((handler.invoke options (part s)).1, update (handler.invoke options (part s)).2 s) :=
  rfl

end Handler

/-- The handlers of all known stage types. -/
structure Registry (σ : Type) where
  handlers : Table (Handler σ)

namespace Registry

variable {σ τ : Type}

def empty : Registry σ :=
  ⟨.empty⟩

/-- The same stage types with handlers made from theirs. -/
def map (registry : Registry σ) (f : Handler σ → Handler τ) : Registry τ :=
  ⟨registry.handlers.map f⟩

/-- Registers a handler; one that the stage type had before is dropped. -/
def register (registry : Registry σ) (type : String) (handler : Handler σ) : Registry σ :=
  ⟨registry.handlers.insert type handler⟩

def unregister (registry : Registry σ) (type : String) : Registry σ :=
  ⟨registry.handlers.erase type⟩

/-- Unregisters a stage type and says whether it had a handler. -/
def remove (registry : Registry σ) (type : String) : Bool × Registry σ :=
  ((registry.handlers.get? type).isSome, registry.unregister type)

def get? (registry : Registry σ) (type : String) : Option (Handler σ) :=
  registry.handlers.get? type

def has (registry : Registry σ) (type : String) : Bool :=
  registry.handlers.contains type

/-- The registered stage types in increasing order. -/
def types (registry : Registry σ) : List String :=
  registry.handlers.names

/-- The registered stage types with the descriptions of their handlers. -/
def describe (registry : Registry σ) : List (String × String) :=
  registry.handlers.entries.map fun entry => (entry.1, entry.2.description)

def size (registry : Registry σ) : Nat :=
  registry.handlers.size

/-- The handler for the stage with the given number. -/
def resolve (registry : Registry σ) (type : String) (index : Nat) : Except Failure (Handler σ) :=
  match registry.get? type with
  | some handler => .ok handler
  | none => .error (.unknownStage type index (", ".intercalate registry.types))

/-- The registry in one line: its stage types between quotes. -/
def display (registry : Registry σ) : String :=
  "HandlerRegistry \x7b stage_types: [" ++ ", ".intercalate (registry.types.map Text.quoted) ++
    "] \x7d"

theorem get?_register (registry : Registry σ) (type other : String) (handler : Handler σ) :
    (registry.register type handler).get? other =
      if other = type then some handler else registry.get? other :=
  registry.handlers.get?_insert type other handler

theorem get?_unregister (registry : Registry σ) (type other : String) :
    (registry.unregister type).get? other = if other = type then none else registry.get? other :=
  registry.handlers.get?_erase type other

theorem get?_map (registry : Registry σ) (f : Handler σ → Handler τ) (type : String) :
    (registry.map f).get? type = (registry.get? type).map f :=
  lookup_map (fun _ => f) type registry.handlers.entries

theorem has_iff_get? {registry : Registry σ} {type : String} :
    registry.has type = true ↔ ∃ handler, registry.get? type = some handler :=
  Option.isSome_iff_exists

theorem resolve_of_get? {registry : Registry σ} {type : String} {handler : Handler σ}
    (h : registry.get? type = some handler) (index : Nat) :
    registry.resolve type index = .ok handler := by
  simp only [resolve, h]

theorem mem_types_iff {registry : Registry σ} {type : String} :
    type ∈ registry.types ↔ registry.has type = true :=
  Table.contains_iff_mem_names.symm

theorem pairwise_types (registry : Registry σ) : registry.types.Pairwise (· < ·) :=
  List.pairwise_map.2 registry.handlers.ordered

end Registry

end Stageflow
