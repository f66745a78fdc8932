import Stageflow.Proofs.Registry.Confined
import Stageflow.Proofs.Run.Progress

namespace Stageflow

namespace Progress

variable {τ : String → Type} {registry : Registry (Memories τ)}

/-- A step leaves what belongs to a stage type, unless a stage of the type is in front of the run
    and its handler keeps a memory. -/
theorem step_state (hconfined : registry.Confined) (progress : Progress) (s : Memories τ)
    {type : String} (htype : type ∈ progress.types → registry.Stateless type) :
    (progress.step registry s).2 type = s type := by
  cases hpending : progress.pending with
  | nil => rw [step_of_ended hpending]
  | cons stage pending =>
    rw [step_of_pending hpending]
    by_cases hne : type = stage.type
    · subst hne
      have hstateless := htype (type_mem_types hpending)
      rw [hstateless.runStage_state]
    · exact hconfined.runStage_of_ne _ _ s hne

/-- A step does the same in two states that agree on the types in front of the run. -/
theorem step_congr (hconfined : registry.Confined) (progress : Progress) {s s' : Memories τ}
    (hagree : ∀ type ∈ progress.types, s type = s' type) :
    (progress.step registry s).1 = (progress.step registry s').1 ∧
      ∀ type ∈ progress.types,
        (progress.step registry s).2 type = (progress.step registry s').2 type := by
  cases hpending : progress.pending with
  | nil =>
    rw [step_of_ended hpending, step_of_ended hpending]
    exact ⟨rfl, hagree⟩
  | cons stage pending =>
    obtain ⟨houtcome, hafter⟩ := hconfined.runStage_congr progress.results.length
      progress.outputs (type_mem_types hpending) hagree
    rw [step_of_pending hpending, step_of_pending hpending, houtcome]
    exact ⟨rfl, hafter⟩

end Progress

/-- Lets runs on one registry take steps in the order of a schedule, which names the run that has
    the next turn. -/
def interleave {σ ι : Type} [DecidableEq ι] (registry : Registry σ) :
    List ι → (ι → Progress) → σ → (ι → Progress) × σ
  | [], runs, s => (runs, s)
  | i :: schedule, runs, s =>
    let (next, after) := (runs i).step registry s
    interleave registry schedule (Function.update runs i next) after

section Interleave

variable {ι : Type} [DecidableEq ι] {τ : String → Type} {registry : Registry (Memories τ)}

theorem interleave_cons {σ : Type} (registry : Registry σ) (i : ι) (schedule : List ι)
    (runs : ι → Progress) (s : σ) :
    interleave registry (i :: schedule) runs s =
      interleave registry schedule (Function.update runs i ((runs i).step registry s).1)
        ((runs i).step registry s).2 :=
  rfl

/-- Under a schedule a run gets as far as with its own steps alone. The other runs may have changed
    the state, but not what belongs to the types in front of this one. -/
theorem interleave_eq_advance (hconfined : registry.Confined) (i : ι) (schedule : List ι)
    (runs : ι → Progress) (s alone : Memories τ)
    (hagree : ∀ type ∈ (runs i).types, s type = alone type)
    (hshared : ∀ j, j ≠ i → ∀ type ∈ (runs i).types, type ∈ (runs j).types →
      registry.Stateless type) :
    (interleave registry schedule runs s).1 i =
      ((runs i).advance registry (schedule.count i) alone).1 := by
  -- Every turn changes the runs and both states; what the induction carries is that the states
  -- agree where this run still looks.
  induction schedule generalizing runs s alone with
  | nil => rfl
  | cons j schedule ih =>
    rw [interleave_cons]
    by_cases hturn : j = i
    · subst hturn
      obtain ⟨hnext, hafter⟩ := (runs j).step_congr hconfined hagree
      have hown : Function.update runs j ((runs j).step registry s).1 j =
          ((runs j).step registry alone).1 := by
        rw [Function.update_self, hnext]
      have hsubset := (runs j).types_step registry alone
      rw [List.count_cons_self, Progress.advance_succ, ← hown]
      apply ih
      · intro type htype
        rw [hown] at htype
        exact hafter type (hsubset type htype)
      · intro k hk type htype hother
        rw [hown] at htype
        rw [Function.update_of_ne hk] at hother
        exact hshared k hk type (hsubset type htype) hother
    · have hown : Function.update runs j ((runs j).step registry s).1 i = runs i := by
        rw [Function.update_of_ne (Ne.symm hturn)]
      rw [List.count_cons_of_ne hturn, ← hown]
      apply ih
      · intro type htype
        rw [hown] at htype
        rw [(runs j).step_state hconfined s (hshared j hturn type htype)]
        exact hagree type htype
      · intro k hk type htype hother
        rw [hown] at htype
        by_cases hkj : k = j
        · subst hkj
          rw [Function.update_self] at hother
          exact hshared k hk type htype ((runs k).types_step registry s type hother)
        · rw [Function.update_of_ne hkj] at hother
          exact hshared k hk type htype hother

end Interleave

/-- Runs that share a registry do not disturb each other. However the steps of the runs are
    interleaved, a run that is over has left the trace that it leaves alone from the same memories,
    and it is over once it has had a turn for each of its stages. Two runs may only have types in
    common whose handlers keep no memory. -/
theorem Pipeline.execute_interleaved {ι : Type} [DecidableEq ι] {τ : String → Type}
    (registry : Registry (Memories τ)) (hconfined : registry.Confined) (pipelines : ι → Pipeline)
    (hregistered : ∀ i, ∀ stage ∈ (pipelines i).stages, registry.has stage.type = true)
    (hshared : ∀ i j, j ≠ i → ∀ type ∈ (pipelines i).types, type ∈ (pipelines j).types →
      registry.Stateless type)
    (clock : Memories τ → Nat) (s : Memories τ) (schedule : List ι) :
    ∃ runs final,
      interleave registry schedule (fun i => .start (pipelines i)) s = (runs, final) ∧
      ∀ i, ((pipelines i).stages.length ≤ schedule.count i → (runs i).Ended) ∧
        ((runs i).Ended → ∃ trace alone,
          (pipelines i).execute clock registry s = (.ok trace, alone) ∧
          (runs i).trace = trace.untimed) := by
  refine ⟨_, _, rfl, ?_⟩
  intro i
  have halone := interleave_eq_advance hconfined i schedule (fun i => .start (pipelines i)) s s
    (fun _ _ => rfl) (hshared i)
  rw [halone]
  constructor
  · intro hturns
    exact Progress.ended_advance_start hturns registry s
  · intro hended
    exact Progress.trace_advance_start (hregistered i) clock _ s hended

/-- Two stage types, one of which counts its calls. -/
def Registry.countingAndSilent : Registry (Memories fun _ => Nat) :=
  let counting := Registry.empty.register "count" (.confined "count"
    ⟨"Counts its calls", fun _ calls => (.ok (.number (.integer (calls + 1))), calls + 1)⟩)
  counting.register "silent" (.confined "silent" (.pure "Replies with nothing" fun _ => .ok .null))

theorem Registry.confined_countingAndSilent : countingAndSilent.Confined :=
  (confined_empty.register "count" _).register "silent" _

theorem Registry.stateless_silent : countingAndSilent.Stateless "silent" := by
  intro handler hget options s
  rw [countingAndSilent, get?_register, if_pos rfl, Option.some.injEq] at hget
  rw [← hget, Handler.invoke_confined]
  exact Function.update_eq_self "silent" s

/-- Two pipelines, the latter of which mentions a count that only the former makes. -/
def Pipeline.countedAndSilent : Bool → Pipeline
  | true => ⟨"counted", [⟨"count", .empty⟩, ⟨"silent", .empty⟩, ⟨"count", .empty⟩]⟩
  | false => ⟨"silent", [⟨"silent", .empty⟩,
      ⟨"silent", .ofList [("before", .text "\x7b\x7bcount\x7d\x7d")]⟩]⟩

/-- A run that comes after a count of another run still does not find it. -/
theorem Pipeline.execute_interleaved_countedAndSilent :
    Registry.countingAndSilent.Confined ∧
      (∀ i, ∀ stage ∈ (countedAndSilent i).stages,
        Registry.countingAndSilent.has stage.type = true) ∧
      (∀ i j, j ≠ i → ∀ type ∈ (countedAndSilent i).types, type ∈ (countedAndSilent j).types →
        Registry.countingAndSilent.Stateless type) ∧
      ∃ runs final,
        interleave Registry.countingAndSilent [true, false, true, false, true]
          (fun i => .start (countedAndSilent i)) (fun _ => 0) = (runs, final) ∧
        (runs false).failed = true ∧ ∀ i, (runs i).Ended ∧ ∃ trace alone,
          (countedAndSilent i).execute (fun _ => 0) Registry.countingAndSilent (fun _ => 0) =
            (.ok trace, alone) ∧ (runs i).trace = trace.untimed := by
  have hregistered : ∀ i, ∀ stage ∈ (countedAndSilent i).stages,
      Registry.countingAndSilent.has stage.type = true := by
    intro i
    cases i <;> decide
  have hsilent : ∀ type ∈ (countedAndSilent false).types, type = "silent" := by
    decide
  have hshared : ∀ i j, j ≠ i → ∀ type ∈ (countedAndSilent i).types,
      type ∈ (countedAndSilent j).types → Registry.countingAndSilent.Stateless type := by
    intro i j hne type hi hj
    obtain rfl : type = "silent" := by
      cases i with
      | false => exact hsilent type hi
      | true =>
        cases j with
        | false => exact hsilent type hj
        | true => exact absurd rfl hne
    exact Registry.stateless_silent
  obtain ⟨runs, final, hruns, htraces⟩ := execute_interleaved Registry.countingAndSilent
    Registry.confined_countingAndSilent countedAndSilent hregistered hshared (fun _ => 0)
    (fun _ => 0) [true, false, true, false, true]
  have hfailed : true = (runs false).failed :=
    congrArg (fun result => (result.1 false).failed) hruns
  refine ⟨Registry.confined_countingAndSilent, hregistered, hshared, runs, final, hruns,
    hfailed.symm, ?_⟩
  intro i
  have hended : (runs i).Ended := by
    apply (htraces i).1
    cases i <;> decide
  exact ⟨hended, (htraces i).2 hended⟩

end Stageflow
