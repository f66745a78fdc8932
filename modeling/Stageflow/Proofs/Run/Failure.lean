import Stageflow.Proofs.Run.Regular

namespace Stageflow

variable {σ : Type}

namespace Trace

variable {trace : Trace} {completed : List StageResult} {last : StageResult} {failure : Failure}
  {index place : Nat}

/-- A failure is rebuilt from the entry that has its error. -/
theorem toResult_of_last (hstages : trace.stages = completed ++ [last])
    (hcompleted : ∀ result ∈ completed, result.error = none)
    (hlast : last.error = some (.ofFailure failure place))
    (hfailure : failure.OfStage last.type index) : trace.toResult = .error failure := by
  have herror : trace.error? = some failure := by
    rw [error?, hstages, List.findSome?_append, List.findSome?_eq_none_iff.2, Option.none_or,
      List.findSome?_singleton, hlast, Option.map_some, hfailure.toFailure_ofFailure]
    intro result hresult
    rw [hcompleted result hresult, Option.map_none]
  rw [toResult, herror]

/-- A failure is rebuilt from the entry that its error names, since that is the entry which has
    the error. -/
theorem attributedFailure?_of_last (hstages : trace.stages = completed ++ [last])
    (hcompleted : ∀ result ∈ completed, result.error = none)
    (hlast : last.error = some (.ofFailure failure place))
    (hfailure : failure.OfStage last.type completed.length) :
    trace.attributedFailure? = some failure := by
  have hentry : trace.stages[(StageError.ofFailure failure place).stageIndex]? = some last := by
    rw [StageError.stageIndex_ofFailure, hfailure.stageIndex, Option.getD_some, hstages,
      List.getElem?_concat_length]
  rw [attributedFailure?, failure?_of_last hstages hcompleted, hlast, Option.map_some, hentry,
    Option.map_some, Option.getD_some, hfailure.toFailure_ofFailure]

/-- Whichever entry is asked, the trace of a run that stopped gives its failure back. -/
theorem rebuilt_of_stoppedOutcomes {pipeline : Pipeline} {outputs : List Json} {stage : Stage}
    (hstage : pipeline.stages[outputs.length]? = some stage)
    (hfailure : failure.OfStage stage.type outputs.length)
    (htrace : trace.untimed = .ofOutcomes pipeline (stoppedOutcomes outputs failure)) :
    trace.failure? = some (.ofFailure failure outputs.length) ∧
      trace.toResult = .error failure ∧ trace.attributedFailure? = some failure := by
  have hlength := (List.getElem?_eq_some_iff.1 hstage).1
  obtain ⟨completed, last, hstages, hcompleted, hnone, htype, hlast⟩ :=
    exists_last_of_stoppedOutcomes hlength htrace
  rw [hstage, Option.map_some, Option.some.injEq] at htype
  rw [htype, ← hcompleted] at hfailure
  refine ⟨?_, toResult_of_last hstages hnone hlast hfailure,
    attributedFailure?_of_last hstages hnone hlast hfailure⟩
  rw [failure?_of_last hstages hnone, hlast]

end Trace

/-- The failure of a stage survives the trace, which keeps it without the stage type and, for an
    unresolved reference, as a sentence: rebuilt from the entry that has the error as well as from
    the entry that the error names, it is the one that the stage returned. A trace is unsuccessful
    only if the run fails at a stage. -/
theorem Pipeline.execute_failsAt (pipeline : Pipeline) (registry : Registry σ)
    (hregistered : ∀ stage ∈ pipeline.stages, registry.has stage.type = true)
    (clock : σ → Nat) (s : σ) :
    ∃ trace final, pipeline.execute clock registry s = (.ok trace, final) ∧
      (trace.succeeded = false ↔
        ∃ index failure, pipeline.FailsAt registry s index failure final) ∧
      ∀ index failure after, pipeline.FailsAt registry s index failure after →
        after = final ∧ trace.failure? = some (.ofFailure failure index) ∧
          trace.toResult = .error failure ∧ trace.attributedFailure? = some failure := by
  obtain ⟨calls, outcomes, final, hrun⟩ := HistoryRun.exists_of_registered [] s hregistered
  obtain ⟨trace, hplain, -, huntimed⟩ := hrun.execute_eq hregistered clock
  refine ⟨trace, final, hplain, ?_⟩
  have hsucceeded := Trace.succeeded_of_outcomes huntimed
  rcases hrun.ends hregistered rfl Outputs.records_empty .start with
    ⟨outputs, rfl, -, recorded, hreach⟩ | ⟨outputs, failure, rfl, hfails⟩
  · rw [all_isOk_completeOutcomes] at hsucceeded
    rw [List.length_nil, Nat.zero_add] at hreach
    refine ⟨iff_of_false ?_ ?_, ?_⟩
    · intro hfailed
      rw [hsucceeded] at hfailed
      cases hfailed
    · rintro ⟨index, failure, hfails⟩
      exact hreach.not_failsAt index failure final hfails
    · intro index failure after hfails
      exact absurd hfails (hreach.not_failsAt index failure after)
  · rw [all_isOk_stoppedOutcomes] at hsucceeded
    rw [List.length_nil, Nat.zero_add] at hfails
    refine ⟨iff_of_true hsucceeded ⟨_, _, hfails⟩, ?_⟩
    intro index failure' after hfails'
    obtain ⟨rfl, rfl, rfl⟩ := hfails.unique hfails'
    obtain ⟨stage, hstage, hfailure⟩ := hfails.exists_ofStage hregistered
    exact ⟨rfl, Trace.rebuilt_of_stoppedOutcomes hstage hfailure huntimed⟩

/-- The failure of a handler comes back with its stage type, its message and its help. -/
theorem Pipeline.execute_failsAt_twice :
    (∀ stage ∈ twice.stages, Registry.once.has stage.type = true) ∧
      twice.FailsAt Registry.once 0 1 (.handler "once" 1 ⟨"used up", some "Start again"⟩) 2 ∧
      ∃ trace, twice.execute id Registry.once 0 = (.ok trace, 2) ∧
        trace.toResult = .error (.handler "once" 1 ⟨"used up", some "Start again"⟩) ∧
        trace.attributedFailure? =
          some (.handler "once" 1 ⟨"used up", some "Start again"⟩) := by
  have hregistered : ∀ stage ∈ twice.stages, Registry.once.has stage.type = true := by
    decide
  have hfails : twice.FailsAt Registry.once 0 1
      (.handler "once" 1 ⟨"used up", some "Start again"⟩) 2 :=
    ⟨_, _, _, .next .start rfl rfl, rfl, rfl⟩
  obtain ⟨trace, final, hexecute, -, hrebuilt⟩ := execute_failsAt twice .once hregistered id 0
  obtain ⟨rfl, -, hresult, hattributed⟩ := hrebuilt 1 _ 2 hfails
  exact ⟨hregistered, hfails, trace, hexecute, hresult, hattributed⟩

end Stageflow
