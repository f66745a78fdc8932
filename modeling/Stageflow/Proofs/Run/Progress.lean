import Stageflow.Proofs.Run.History

namespace Stageflow

variable {σ : Type}

/-- A run between two stages: the stages in front of it, the outputs that it has recorded, and what
    it has left so far, durations aside. -/
structure Progress where
  name : String
  pending : List Stage
  outputs : Outputs
  results : List StageResult
  failed : Bool

namespace Progress

def start (pipeline : Pipeline) : Progress :=
  ⟨pipeline.name, pipeline.stages, .empty, [], false⟩

/-- A run is over if no stage is in front of it, be it that all have completed or that one has
    failed. -/
def Ended (progress : Progress) : Prop :=
  progress.pending = []

/-- The stage types in front of a run. -/
def types (progress : Progress) : List String :=
  progress.pending.map (·.type)

def trace (progress : Progress) : Trace :=
  ⟨progress.name, progress.results, !progress.failed, 0⟩

/-- Records how a stage ended in front of others. Behind a failure these are not run. -/
def record (progress : Progress) (stage : Stage) (pending : List Stage) :
    Except Failure Json → Progress
  | .ok output =>
    { progress with
      pending
      outputs := progress.outputs.insert stage.type output
      results := progress.results ++
        [.ofOutcome progress.results.length stage.type (.ok output)] }
  | .error failure =>
    { progress with
      pending := []
      results := progress.results ++
        [.ofOutcome progress.results.length stage.type (.error failure)]
      failed := true }

/-- Runs the next stage and records how it ends. A run that is over stays as it is. -/
def step (registry : Registry σ) (progress : Progress) (s : σ) : Progress × σ :=
  match progress.pending with
  | [] => (progress, s)
  | stage :: pending =>
    let (outcome, after) :=
      Pipeline.runStage registry progress.results.length stage progress.outputs s
    (progress.record stage pending outcome, after)

/-- Takes a number of steps of one run, with nothing between them. -/
def advance (registry : Registry σ) : Nat → Progress → σ → Progress × σ
  | 0, progress, s => (progress, s)
  | n + 1, progress, s =>
    let (next, after) := progress.step registry s
    advance registry n next after

variable {registry : Registry σ} {progress : Progress} {stage : Stage} {pending : List Stage}

theorem step_of_ended (h : progress.Ended) (s : σ) : progress.step registry s = (progress, s) := by
  rw [Ended] at h
  simp only [step, h]

theorem step_of_pending (h : progress.pending = stage :: pending) (s : σ) :
    progress.step registry s =
      (progress.record stage pending
        (Pipeline.runStage registry progress.results.length stage progress.outputs s).1,
      (Pipeline.runStage registry progress.results.length stage progress.outputs s).2) := by
  simp only [step, h]

theorem advance_succ (registry : Registry σ) (n : Nat) (progress : Progress) (s : σ) :
    progress.advance registry (n + 1) s =
      (progress.step registry s).1.advance registry n (progress.step registry s).2 :=
  rfl

theorem advance_of_ended (h : progress.Ended) (n : Nat) (s : σ) :
    progress.advance registry n s = (progress, s) := by
  induction n with
  | zero => rfl
  | succ n ih =>
    rw [advance_succ, step_of_ended h]
    exact ih

theorem advance_add (m n : Nat) (progress : Progress) (s : σ) :
    progress.advance registry (m + n) s =
      (progress.advance registry m s).1.advance registry n (progress.advance registry m s).2 := by
  induction m generalizing progress s with
  | zero => rw [Nat.zero_add, advance]
  | succ m ih =>
    rw [Nat.add_right_comm, advance_succ, advance_succ, ih]

theorem type_mem_types (h : progress.pending = stage :: pending) :
    stage.type ∈ progress.types := by
  rw [types, h, List.map_cons]
  exact List.mem_cons_self

/-- No step brings a stage type in front of a run that was not there before. -/
theorem types_step (progress : Progress) (registry : Registry σ) (s : σ) :
    ∀ type ∈ (progress.step registry s).1.types, type ∈ progress.types := by
  intro type htype
  cases hpending : progress.pending with
  | nil =>
    rw [step_of_ended hpending] at htype
    exact htype
  | cons stage pending =>
    rw [step_of_pending hpending] at htype
    rw [types, hpending, List.map_cons]
    generalize (Pipeline.runStage registry progress.results.length stage progress.outputs s).1 =
      outcome at htype
    cases outcome with
    | ok output => exact List.mem_cons_of_mem _ htype
    | error failure => cases htype

/-- With enough steps a run comes to what running the stages in front of it leaves. -/
theorem advance_eq (progress : Progress) {clock : σ → Nat} {stages : List Stage}
    {results : List StageResult} {succeeded : Bool} {n : Nat} {s final : σ} (hpending : progress.pending = stages)
    (hfailed : progress.failed = false)
    (hrun : Pipeline.runStages clock registry progress.results.length progress.outputs s stages =
      (results, succeeded, final)) (hn : stages.length ≤ n) :
    ∃ outputs, progress.advance registry n s =
      ({ progress with
          pending := []
          outputs
          results := progress.results ++ results.map StageResult.untimed
          failed := !succeeded }, final) := by
  induction stages generalizing progress results n s with
  | nil =>
    cases hrun
    refine ⟨progress.outputs, ?_⟩
    rw [advance_of_ended hpending, List.map_nil, List.append_nil, Bool.not_true, ← hpending,
      ← hfailed]
  | cons stage stages ih =>
    obtain ⟨n, rfl⟩ : ∃ m, n = m + 1 := Nat.exists_eq_add_one.2 (Nat.lt_of_lt_of_le (by simp) hn)
    rcases Pipeline.runStages_cons_cases hrun with
      ⟨failure, hstage, rfl, rfl⟩ | ⟨output, middle, rest, hstage, rfl, hrest⟩
    · refine ⟨progress.outputs, ?_⟩
      rw [advance_succ, step_of_pending hpending, hstage, record, advance_of_ended (by rfl)]
      rfl
    · have hlength : (progress.record stage stages (.ok output)).results.length =
          progress.results.length + 1 := by
        simp [record]
      rw [← hlength] at hrest
      obtain ⟨outputs, hadvance⟩ :=
        ih (progress.record stage stages (.ok output)) rfl hfailed hrest (by simpa using hn)
      refine ⟨outputs, ?_⟩
      rw [advance_succ, step_of_pending hpending, hstage, hadvance]
      simp [record, StageResult.ofOutcome, StageResult.untimed]

/-- A run that is over on its own has left the trace of its pipeline, durations aside. -/
theorem trace_advance_start {pipeline : Pipeline}
    (hregistered : ∀ stage ∈ pipeline.stages, registry.has stage.type = true)
    (clock : σ → Nat) (n : Nat) (s : σ) (hended : ((start pipeline).advance registry n s).1.Ended) :
    ∃ trace final, pipeline.execute clock registry s = (.ok trace, final) ∧
      ((start pipeline).advance registry n s).1.trace = trace.untimed := by
  rcases hrun : Pipeline.runStages clock registry 0 .empty s pipeline.stages with
    ⟨results, succeeded, final⟩
  refine ⟨_, final, Pipeline.execute_of_runStages pipeline.name hregistered hrun, ?_⟩
  -- Further steps of a run that is over change nothing, so there are enough of them.
  have hmore : (start pipeline).advance registry (n + pipeline.stages.length) s = _ :=
    advance_add n pipeline.stages.length (start pipeline) s
  rw [advance_of_ended hended] at hmore
  obtain ⟨outputs, hadvance⟩ := (start pipeline).advance_eq rfl rfl hrun
    (Nat.le_add_left pipeline.stages.length n)
  rw [← congrArg Prod.fst hmore, hadvance]
  simp [trace, start, Trace.untimed, StageResult.untimed]

theorem ended_advance_start {pipeline : Pipeline} {n : Nat} (hn : pipeline.stages.length ≤ n)
    (registry : Registry σ) (s : σ) : ((start pipeline).advance registry n s).1.Ended := by
  rcases hrun : Pipeline.runStages (fun _ => 0) registry 0 .empty s pipeline.stages with
    ⟨results, succeeded, final⟩
  obtain ⟨outputs, hadvance⟩ := (start pipeline).advance_eq rfl rfl hrun hn
  rw [hadvance]
  rfl

end Progress

end Stageflow
