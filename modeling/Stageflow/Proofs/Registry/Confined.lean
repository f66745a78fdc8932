import Mathlib.Logic.Function.Basic
import Stageflow.Run

namespace Stageflow

variable {τ : String → Type}

/-- A stage fails without a look at the state, or calls its handler with options that do not depend
    on the state. -/
theorem Pipeline.runStage_cases {σ : Type} (registry : Registry σ) (index : Nat) (stage : Stage)
    (outputs : Outputs) :
    (∃ failure, ∀ s, runStage registry index stage outputs s = (.error failure, s)) ∨
      ∃ handler options, registry.get? stage.type = some handler ∧
        ∀ s, runStage registry index stage outputs s =
          ((handler.invoke options s).1.mapError (.handler stage.type index),
            (handler.invoke options s).2) := by
  cases hget : registry.get? stage.type with
  | none =>
    refine .inl ⟨.unknownStage stage.type index (", ".intercalate registry.types), ?_⟩
    intro s
    simp only [runStage, Registry.resolve, hget]
  | some handler =>
    cases hresolve : outputs.resolve stage.options with
    | error reference =>
      refine .inl ⟨.unresolvedReference reference stage.type index, ?_⟩
      intro s
      simp only [runStage, Registry.resolve, hget, hresolve]
    | ok options =>
      refine .inr ⟨handler, options, rfl, ?_⟩
      intro s
      simp only [runStage, Registry.resolve, hget, hresolve]
      obtain ⟨reply, after⟩ := handler.invoke options s
      cases reply <;> rfl

/-- A memory for every stage type. -/
abbrev Memories (τ : String → Type) :=
  (type : String) → τ type

/-- A handler whose memory is the part of the state that belongs to a stage type. -/
def Handler.confined (type : String) (own : Handler (τ type)) :
    Handler (Memories τ) :=
  own.within (fun s => s type) (fun memory s => Function.update s type memory)

theorem Handler.invoke_confined (type : String) (own : Handler (τ type)) (options : Options)
    (s : Memories τ) :
    (own.confined type).invoke options s =
      ((own.invoke options (s type)).1,
        Function.update s type (own.invoke options (s type)).2) :=
  rfl

namespace Registry

/-- Every handler has the part of the state to itself that belongs to its stage type. -/
def Confined (registry : Registry (Memories τ)) : Prop :=
  ∀ type handler, registry.get? type = some handler →
    ∃ own : Handler (τ type), handler = own.confined type

/-- The handler of a stage type keeps no memory. -/
def Stateless {σ : Type} (registry : Registry σ) (type : String) : Prop :=
  ∀ handler, registry.get? type = some handler → ∀ options s, (handler.invoke options s).2 = s

theorem confined_empty : (empty : Registry (Memories τ)).Confined := by
  intro type handler hget
  cases hget

theorem Confined.register {registry : Registry (Memories τ)}
    (h : registry.Confined) (type : String) (own : Handler (τ type)) :
    (registry.register type (own.confined type)).Confined := by
  intro other handler hget
  rw [get?_register] at hget
  by_cases hother : other = type
  · subst hother
    rw [if_pos rfl, Option.some.injEq] at hget
    exact ⟨own, hget.symm⟩
  · rw [if_neg hother] at hget
    exact h other handler hget

/-- A stage whose handler keeps no memory leaves the state as it is. -/
theorem Stateless.runStage_state {σ : Type} {registry : Registry σ} {stage : Stage}
    (h : registry.Stateless stage.type) (index : Nat) (outputs : Outputs) (s : σ) :
    (Pipeline.runStage registry index stage outputs s).2 = s := by
  rcases Pipeline.runStage_cases registry index stage outputs with
    ⟨failure, hrun⟩ | ⟨handler, options, hget, hrun⟩
  · rw [hrun]
  · rw [hrun]
    exact h handler hget options s

/-- What a stage does is a matter of the part of the state that belongs to its type: only this part
    is read, and only this part is written. -/
theorem Confined.exists_runStage {registry : Registry (Memories τ)}
    (h : registry.Confined) (index : Nat) (stage : Stage) (outputs : Outputs) :
    ∃ own : τ stage.type → Except Failure Json × τ stage.type,
      ∀ s, Pipeline.runStage registry index stage outputs s =
        ((own (s stage.type)).1, Function.update s stage.type (own (s stage.type)).2) := by
  rcases Pipeline.runStage_cases registry index stage outputs with
    ⟨failure, hrun⟩ | ⟨handler, options, hget, hrun⟩
  · refine ⟨fun memory => (.error failure, memory), ?_⟩
    intro s
    rw [hrun, Function.update_eq_self]
  · obtain ⟨own, rfl⟩ := h stage.type handler hget
    refine ⟨fun memory => ((own.invoke options memory).1.mapError (.handler stage.type index),
      (own.invoke options memory).2), ?_⟩
    intro s
    rw [hrun, Handler.invoke_confined]

/-- Stages of other types do not touch what belongs to a type. -/
theorem Confined.runStage_of_ne {registry : Registry (Memories τ)}
    (h : registry.Confined) (index : Nat) {stage : Stage} (outputs : Outputs)
    (s : Memories τ) {type : String} (hne : type ≠ stage.type) :
    (Pipeline.runStage registry index stage outputs s).2 type = s type := by
  obtain ⟨own, hrun⟩ := h.exists_runStage index stage outputs
  rw [hrun]
  exact Function.update_of_ne hne _ _

/-- A stage does the same in two states that agree on some types, its own among them, and leaves
    states that agree on them. -/
theorem Confined.runStage_congr {registry : Registry (Memories τ)}
    (h : registry.Confined) (index : Nat) {stage : Stage} (outputs : Outputs)
    {s s' : Memories τ} {types : List String} (hstage : stage.type ∈ types)
    (hagree : ∀ type ∈ types, s type = s' type) :
    (Pipeline.runStage registry index stage outputs s).1 =
        (Pipeline.runStage registry index stage outputs s').1 ∧
      ∀ type ∈ types, (Pipeline.runStage registry index stage outputs s).2 type =
        (Pipeline.runStage registry index stage outputs s').2 type := by
  obtain ⟨own, hrun⟩ := h.exists_runStage index stage outputs
  have hmemory := hagree stage.type hstage
  constructor
  · rw [hrun, hrun, hmemory]
  · intro type htype
    by_cases htype' : type = stage.type
    · subst htype'
      simp only [hrun, hmemory, Function.update_self]
    · rw [h.runStage_of_ne index outputs s htype', h.runStage_of_ne index outputs s' htype']
      exact hagree type htype

end Registry

end Stageflow
