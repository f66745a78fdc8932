import Stageflow.Proofs.Outputs.Resolve
import Stageflow.Run

namespace Stageflow

variable {σ : Type}

/-- A call of the handler of a stage type. -/
structure Call where
  type : String
  options : Options
  deriving DecidableEq, Repr

/-- The same handler, which also notes every call behind those already made. -/
def Handler.recorded (type : String) (handler : Handler σ) : Handler (σ × List Call) :=
  { description := handler.description
    invoke := fun options s =>
      let (reply, after) := handler.invoke options s.1
      (reply, after, s.2 ++ [⟨type, options⟩]) }

/-- The same stage types, with handlers that note their calls. -/
def Registry.recorded (registry : Registry σ) : Registry (σ × List Call) :=
  ⟨registry.handlers.entries.map fun entry => (entry.1, entry.2.recorded entry.1), by
    simpa only [Ordered, List.pairwise_map] using registry.handlers.ordered⟩

theorem Registry.get?_recorded (registry : Registry σ) (type : String) :
    registry.recorded.get? type = (registry.get? type).map (·.recorded type) :=
  lookup_map (Handler.recorded (σ := σ)) type registry.handlers.entries

theorem Registry.has_recorded (registry : Registry σ) (type : String) :
    registry.recorded.has type = registry.has type := by
  change (registry.recorded.get? type).isSome = (registry.get? type).isSome
  rw [Registry.get?_recorded, Option.isSome_map]

/-- All that a stage of a registered type can do when its placeholders stand for the given outputs:
    the calls that it makes, how it ends, and the state that it leaves. No handler is called with a
    placeholder that stands for nothing, and otherwise exactly one is called once. -/
inductive Attempt (registry : Registry σ) (output? : String → Option Json) (index : Nat)
    (stage : Stage) (s : σ) : List Call → Except Failure Json → σ → Prop where
  | unresolved {reference : String}
      (hmissing : Placeholder.missing? output? stage.options = some reference) :
      Attempt registry output? index stage s []
        (.error (.unresolvedReference reference stage.type index)) s
  | failed {handler : Handler σ} {error : HandlerError} {after : σ}
      (hmissing : Placeholder.missing? output? stage.options = none)
      (hhandler : registry.get? stage.type = some handler)
      (hinvoke : handler.invoke (stage.options.substitute output?) s = (.error error, after)) :
      Attempt registry output? index stage s
        [⟨stage.type, stage.options.substitute output?⟩]
        (.error (.handler stage.type index error)) after
  | succeeded {handler : Handler σ} {output : Json} {after : σ}
      (hmissing : Placeholder.missing? output? stage.options = none)
      (hhandler : registry.get? stage.type = some handler)
      (hinvoke : handler.invoke (stage.options.substitute output?) s = (.ok output, after)) :
      Attempt registry output? index stage s
        [⟨stage.type, stage.options.substitute output?⟩] (.ok output) after

namespace Attempt

variable {registry : Registry σ} {output? : String → Option Json} {index : Nat} {stage : Stage}
  {s : σ}

/-- A stage of a registered type always comes to an end of one of the three kinds. -/
theorem exists_of_has (hregistered : registry.has stage.type = true)
    (output? : String → Option Json) (index : Nat) (s : σ) :
    ∃ calls outcome after, Attempt registry output? index stage s calls outcome after := by
  obtain ⟨handler, hhandler⟩ := Registry.has_iff_get?.1 hregistered
  cases hmissing : Placeholder.missing? output? stage.options with
  | some reference => exact ⟨_, _, _, .unresolved hmissing⟩
  | none =>
    cases hinvoke : handler.invoke (stage.options.substitute output?) s with
    | mk reply after =>
      cases reply with
      | ok output => exact ⟨_, _, _, .succeeded hmissing hhandler hinvoke⟩
      | error error => exact ⟨_, _, _, .failed hmissing hhandler hinvoke⟩

/-- Running a stage does what an attempt says, whether or not the handlers note their calls. -/
theorem runStage_eq {outputs : Outputs} {calls : List Call} {outcome : Except Failure Json}
    {after : σ} (hattempt : Attempt registry outputs.get? index stage s calls outcome after)
    (hregistered : registry.has stage.type = true) (log : List Call) :
    Pipeline.runStage registry index stage outputs s = (outcome, after) ∧
      Pipeline.runStage registry.recorded index stage outputs (s, log) =
        (outcome, after, log ++ calls) := by
  obtain ⟨handler, hget⟩ := Registry.has_iff_get?.1 hregistered
  have hrecorded : registry.recorded.get? stage.type = some (handler.recorded stage.type) := by
    rw [Registry.get?_recorded, hget, Option.map_some]
  simp only [Pipeline.runStage, Registry.resolve_of_get? hget, Registry.resolve_of_get? hrecorded,
    Outputs.resolve_eq]
  cases hattempt with
  | unresolved hmissing => simp [hmissing]
  | failed hmissing hhandler hinvoke =>
    obtain rfl : handler = _ := Option.some.inj (hget.symm.trans hhandler)
    simp [hmissing, Handler.recorded, hinvoke]
  | succeeded hmissing hhandler hinvoke =>
    obtain rfl : handler = _ := Option.some.inj (hget.symm.trans hhandler)
    simp [hmissing, Handler.recorded, hinvoke]

/-- The calls, the end and the state are determined by the stage and the state before it. -/
theorem unique {calls calls' : List Call} {outcome outcome' : Except Failure Json} {after after' : σ}
    (h : Attempt registry output? index stage s calls outcome after)
    (h' : Attempt registry output? index stage s calls' outcome' after') :
    calls = calls' ∧ outcome = outcome' ∧ after = after' := by
  cases h with
  | unresolved hmissing =>
    cases h' with
    | unresolved hmissing' =>
      obtain rfl := Option.some.inj (hmissing.symm.trans hmissing')
      exact ⟨rfl, rfl, rfl⟩
    | failed hmissing' | succeeded hmissing' => cases hmissing.symm.trans hmissing'
  | failed hmissing hhandler hinvoke =>
    cases h' with
    | unresolved hmissing' => cases hmissing.symm.trans hmissing'
    | failed _ hhandler' hinvoke' =>
      obtain rfl := Option.some.inj (hhandler.symm.trans hhandler')
      cases hinvoke.symm.trans hinvoke'
      exact ⟨rfl, rfl, rfl⟩
    | succeeded _ hhandler' hinvoke' =>
      obtain rfl := Option.some.inj (hhandler.symm.trans hhandler')
      cases hinvoke.symm.trans hinvoke'
  | succeeded hmissing hhandler hinvoke =>
    cases h' with
    | unresolved hmissing' => cases hmissing.symm.trans hmissing'
    | failed _ hhandler' hinvoke' =>
      obtain rfl := Option.some.inj (hhandler.symm.trans hhandler')
      cases hinvoke.symm.trans hinvoke'
    | succeeded _ hhandler' hinvoke' =>
      obtain rfl := Option.some.inj (hhandler.symm.trans hhandler')
      cases hinvoke.symm.trans hinvoke'
      exact ⟨rfl, rfl, rfl⟩

end Attempt

end Stageflow
