import Stageflow.Proofs.Run.Attempt

namespace Stageflow

variable {σ : Type}

/-- The stage types that have completed, in order, with their outputs. -/
abbrev History :=
  List (String × Json)

/-- The output of the last completed stage of a type. -/
def History.latest? (history : History) (type : String) : Option Json :=
  lookup type history.reverse

theorem History.latest?_append (history : History) (type other : String) (output : Json) :
    History.latest? (history ++ [(type, output)]) other =
      if type = other then some output else history.latest? other := by
  rw [latest?, List.reverse_append]
  rfl

/-- Recorded outputs are those of a history if every lookup finds the latest one. -/
def Outputs.Records (outputs : Outputs) (history : History) : Prop :=
  outputs.get? = history.latest?

theorem Outputs.records_empty : Outputs.Records .empty [] :=
  rfl

/-- The map forgets all but the latest output of a type, which is all that a lookup needs. -/
theorem Outputs.Records.insert {outputs : Outputs} {history : History}
    (h : outputs.Records history) (type : String) (output : Json) :
    Outputs.Records (outputs.insert type output) (history ++ [(type, output)]) := by
  funext other
  rw [Table.get?_insert, History.latest?_append, h]
  by_cases hother : other = type
  · simp [hother]
  · simp [hother, Ne.symm hother]

/-- The run of stages behind a history, without reference to a map of outputs: the calls of
    handlers, how the stages that were reached ended, and the final state. A stage is reached only
    if all before it succeeded, and nothing is called behind one that fails. -/
inductive HistoryRun (registry : Registry σ) :
    History → σ → List Stage → List Call → List (Except Failure Json) → σ → Prop where
  | finished {history : History} {s : σ} : HistoryRun registry history s [] [] [] s
  | stopped {history : History} {s after : σ} {stage : Stage} {stages : List Stage}
      {calls : List Call} {failure : Failure}
      (hattempt : Attempt registry history.latest? history.length stage s calls
        (.error failure) after) :
      HistoryRun registry history s (stage :: stages) calls [.error failure] after
  | continued {history : History} {s after final : σ} {stage : Stage} {stages : List Stage}
      {calls later : List Call} {output : Json} {outcomes : List (Except Failure Json)}
      (hattempt : Attempt registry history.latest? history.length stage s calls
        (.ok output) after)
      (hrun : HistoryRun registry (history ++ [(stage.type, output)]) after stages later
        outcomes final) :
      HistoryRun registry history s (stage :: stages) (calls ++ later) (.ok output :: outcomes)
        final

/-- What a trace keeps of a stage that ended in a given way. -/
def StageResult.ofOutcome (index : Nat) (type : String) : Except Failure Json → StageResult
  | .ok output => ⟨index, type, some output, none, 0⟩
  | .error failure => ⟨index, type, none, some (.ofFailure failure index), 0⟩

def StageResult.untimed (result : StageResult) : StageResult :=
  { result with durationMs := 0 }

/-- What a trace keeps of stages, the first of which has the given number. -/
def StageResult.ofOutcomes (index : Nat) :
    List Stage → List (Except Failure Json) → List StageResult
  | stage :: stages, outcome :: outcomes =>
    .ofOutcome index stage.type outcome :: ofOutcomes (index + 1) stages outcomes
  | _, _ => []

theorem StageResult.ofOutcomes_nil (index : Nat) (stages : List Stage) :
    ofOutcomes index stages [] = [] := by
  cases stages <;> rfl

/-- The trace, durations aside, of a pipeline whose reached stages ended in the given ways. -/
def Trace.ofOutcomes (pipeline : Pipeline) (outcomes : List (Except Failure Json)) : Trace :=
  ⟨pipeline.name, StageResult.ofOutcomes 0 pipeline.stages outcomes,
    outcomes.all (·.isOk), 0⟩

/-- Stages of registered types do not keep a preflight from those behind them. -/
theorem Pipeline.preflightFrom_append {registry : Registry σ} {before : List Stage} (index : Nat)
    (hregistered : ∀ stage ∈ before, registry.has stage.type = true) (stages : List Stage) :
    preflightFrom registry index (before ++ stages) =
      preflightFrom registry (index + before.length) stages := by
  induction before generalizing index with
  | nil => rfl
  | cons stage before ih =>
    rw [List.forall_mem_cons] at hregistered
    obtain ⟨handler, hget⟩ := Registry.has_iff_get?.1 hregistered.1
    simp only [List.cons_append, preflightFrom, Registry.resolve_of_get? hget]
    rw [ih (index + 1) hregistered.2, List.length_cons, Nat.add_right_comm, Nat.add_assoc]

theorem Pipeline.preflight_of_registered {pipeline : Pipeline} {registry : Registry σ}
    (hregistered : ∀ stage ∈ pipeline.stages, registry.has stage.type = true) :
    pipeline.preflight registry = .ok () := by
  have happend := preflightFrom_append 0 hregistered []
  rw [List.append_nil] at happend
  exact happend

/-- What running stages can come to: the first of them fails and nothing else runs, or it succeeds
    and the others run behind it with its output recorded. -/
theorem Pipeline.runStages_cons_cases {clock : σ → Nat} {registry : Registry σ} {index : Nat}
    {outputs : Outputs} {s after : σ} {stage : Stage} {stages : List Stage}
    {results : List StageResult} {succeeded : Bool}
    (h : runStages clock registry index outputs s (stage :: stages) =
      (results, succeeded, after)) :
    (∃ failure, runStage registry index stage outputs s = (.error failure, after) ∧
      results = [⟨index, stage.type, none, some (.ofFailure failure index),
        clock after - clock s⟩] ∧ succeeded = false) ∨
    ∃ output middle rest, runStage registry index stage outputs s = (.ok output, middle) ∧
      results = ⟨index, stage.type, some output, none, clock middle - clock s⟩ :: rest ∧
      runStages clock registry (index + 1) (outputs.insert stage.type output) middle stages =
        (rest, succeeded, after) := by
  cases hrun : runStage registry index stage outputs s with
  | mk outcome middle =>
    cases outcome with
    | error failure =>
      simp only [runStages, hrun, Prod.mk.injEq] at h
      obtain ⟨rfl, rfl, rfl⟩ := h
      exact .inl ⟨failure, rfl, rfl, rfl⟩
    | ok output =>
      simp only [runStages, hrun, Prod.mk.injEq] at h
      obtain ⟨rfl, hsucceeded, hafter⟩ := h
      exact .inr ⟨output, middle, _, rfl, rfl, Prod.ext rfl (Prod.ext hsucceeded hafter)⟩

/-- What a pipeline of registered stage types leaves is what its stages leave. -/
theorem Pipeline.execute_of_runStages (name : String) {stages : List Stage} {clock : σ → Nat}
    {registry : Registry σ} {s after : σ} {results : List StageResult} {succeeded : Bool}
    (hregistered : ∀ stage ∈ stages, registry.has stage.type = true)
    (h : runStages clock registry 0 .empty s stages = (results, succeeded, after)) :
    execute ⟨name, stages⟩ clock registry s =
      (.ok ⟨name, results, succeeded, clock after - clock s⟩, after) := by
  have hpreflight : preflight ⟨name, stages⟩ registry = .ok () :=
    preflight_of_registered hregistered
  simp only [execute, hpreflight, h]

namespace HistoryRun

variable {registry : Registry σ} {history : History} {s : σ} {stages : List Stage}

/-- Stages of registered types always have a run. -/
theorem exists_of_registered (history : History) (s : σ)
    (hregistered : ∀ stage ∈ stages, registry.has stage.type = true) :
    ∃ calls outcomes final, HistoryRun registry history s stages calls outcomes final := by
  induction stages generalizing history s with
  | nil => exact ⟨_, _, _, .finished⟩
  | cons stage stages ih =>
    rw [List.forall_mem_cons] at hregistered
    obtain ⟨calls, outcome, after, hattempt⟩ :=
      Attempt.exists_of_has hregistered.1 history.latest? history.length s
    cases outcome with
    | error failure => exact ⟨_, _, _, .stopped hattempt⟩
    | ok output =>
      obtain ⟨later, outcomes, final, hrun⟩ :=
        ih (history ++ [(stage.type, output)]) after hregistered.2
      exact ⟨_, _, _, .continued hattempt hrun⟩

/-- Stages have only one run from a given state. -/
theorem unique {calls calls' : List Call} {outcomes outcomes' : List (Except Failure Json)}
    {final final' : σ} (h : HistoryRun registry history s stages calls outcomes final)
    (h' : HistoryRun registry history s stages calls' outcomes' final') :
    calls' = calls ∧ outcomes' = outcomes ∧ final' = final := by
  induction h generalizing calls' outcomes' final' with
  | finished =>
    cases h'
    exact ⟨rfl, rfl, rfl⟩
  | stopped hattempt =>
    cases h' with
    | stopped hattempt' =>
      obtain ⟨hcalls, houtcome, hafter⟩ := hattempt'.unique hattempt
      exact ⟨hcalls, by rw [houtcome], hafter⟩
    | continued hattempt' hrun' => cases (hattempt'.unique hattempt).2.1
  | continued hattempt hrun ih =>
    cases h' with
    | stopped hattempt' => cases (hattempt'.unique hattempt).2.1
    | continued hattempt' hrun' =>
      obtain ⟨rfl, houtcome, rfl⟩ := hattempt'.unique hattempt
      cases houtcome
      obtain ⟨rfl, rfl, rfl⟩ := ih hrun'
      exact ⟨rfl, rfl, rfl⟩

/-- The runner takes the steps of the run as long as its map records the history, whether or not
    the handlers note their calls. -/
theorem runStages_eq {calls : List Call} {outcomes : List (Except Failure Json)} {final : σ}
    (hrun : HistoryRun registry history s stages calls outcomes final)
    (hregistered : ∀ stage ∈ stages, registry.has stage.type = true)
    {outputs : Outputs} (houtputs : outputs.Records history) (clock : σ → Nat) (log : List Call) :
    ∃ results,
      Pipeline.runStages clock registry history.length outputs s stages =
        (results, outcomes.all (·.isOk), final) ∧
      Pipeline.runStages (fun s => clock s.1) registry.recorded history.length outputs (s, log)
          stages =
        (results, outcomes.all (·.isOk), final, log ++ calls) ∧
      results.map StageResult.untimed =
        StageResult.ofOutcomes history.length stages outcomes := by
  -- The map changes with every stage; what the induction carries is that it records the history.
  induction hrun generalizing outputs log with
  | finished => exact ⟨[], rfl, by simp [Pipeline.runStages], rfl⟩
  | @stopped history s after stage stages calls failure hattempt =>
    rw [← houtputs] at hattempt
    obtain ⟨hplain, hrecorded⟩ :=
      hattempt.runStage_eq (hregistered stage List.mem_cons_self) log
    refine ⟨[⟨history.length, stage.type, none, some (.ofFailure failure history.length),
      clock after - clock s⟩], ?_, ?_, ?_⟩
    · simp only [Pipeline.runStages, hplain]
      rfl
    · simp only [Pipeline.runStages, hrecorded]
      rfl
    · rw [StageResult.ofOutcomes, StageResult.ofOutcomes_nil]
      rfl
  | @continued history s after final stage stages calls later output outcomes hattempt hrun ih =>
    rw [List.forall_mem_cons] at hregistered
    rw [← houtputs] at hattempt
    obtain ⟨hplain, hrecorded⟩ := hattempt.runStage_eq hregistered.1 log
    obtain ⟨results, hresults, hlogged, huntimed⟩ :=
      ih hregistered.2 (houtputs.insert stage.type output) (log ++ calls)
    rw [List.length_append, List.length_singleton] at hresults hlogged huntimed
    refine ⟨⟨history.length, stage.type, some output, none, clock after - clock s⟩ :: results,
      ?_, ?_, ?_⟩
    · simp only [Pipeline.runStages, hplain, hresults]
      rfl
    · simp only [Pipeline.runStages, hrecorded, hlogged, List.append_assoc]
      rfl
    · rw [List.map_cons, huntimed]
      rfl

/-- The trace of an execution is that of the run behind the empty history, and so are its handler
    calls and its final state. -/
theorem execute_eq {pipeline : Pipeline} {calls : List Call}
    {outcomes : List (Except Failure Json)} {final : σ}
    (hrun : HistoryRun registry [] s pipeline.stages calls outcomes final)
    (hregistered : ∀ stage ∈ pipeline.stages, registry.has stage.type = true) (clock : σ → Nat) :
    ∃ trace,
      pipeline.execute clock registry s = (.ok trace, final) ∧
      pipeline.execute (fun s => clock s.1) registry.recorded (s, []) =
        (.ok trace, final, calls) ∧
      trace.untimed = .ofOutcomes pipeline outcomes := by
  obtain ⟨results, hplain, hrecorded, huntimed⟩ :=
    hrun.runStages_eq hregistered Outputs.records_empty clock []
  rw [List.length_nil] at hplain hrecorded huntimed
  rw [List.nil_append] at hrecorded
  have hregistered' : ∀ stage ∈ pipeline.stages, registry.recorded.has stage.type = true := by
    intro stage hstage
    rw [Registry.has_recorded]
    exact hregistered stage hstage
  refine ⟨⟨pipeline.name, results, outcomes.all (·.isOk), clock final - clock s⟩, ?_, ?_, ?_⟩
  · exact Pipeline.execute_of_runStages pipeline.name hregistered hplain
  · exact Pipeline.execute_of_runStages pipeline.name hregistered' hrecorded
  · simp only [Trace.untimed, Trace.ofOutcomes, Trace.mk.injEq, true_and, and_true]
    exact huntimed

end HistoryRun

end Stageflow
