import Stageflow.Proofs.Run.Reach

namespace Stageflow

variable {σ : Type}

/-- The form of the traces that runs of a pipeline leave. -/
structure Trace.Regular (trace : Trace) (pipeline : Pipeline) : Prop where
  length_le : trace.stages.length ≤ pipeline.stages.length
  /-- An entry has the number and the type of the stage in its place. -/
  place : ∀ (i : Nat) (result : StageResult), trace.stages[i]? = some result →
    result.index = i ∧ pipeline.stages[i]?.map (·.type) = some result.type
  /-- An entry has either an output or an error. -/
  outcome : ∀ result ∈ trace.stages,
    (∃ output, result.output = some output ∧ result.error = none) ∨
      ∃ error, result.output = none ∧ result.error = some error
  /-- Nothing follows an entry with an error. -/
  completed : ∀ (i : Nat) (result : StageResult), trace.stages[i]? = some result →
    i + 1 < trace.stages.length → (∃ output, result.output = some output) ∧ result.error = none
  succeeded_iff : trace.succeeded = true ↔
    trace.stages.length = pipeline.stages.length ∧ ∀ result ∈ trace.stages, result.error = none
  /-- A run that failed leaves its error in the last entry, and only there. -/
  failed : trace.succeeded = false →
    ∃ completed last error, trace.stages = completed ++ [last] ∧
      (∀ result ∈ completed, result.error = none) ∧ last.error = some error ∧
      error.stageIndex = completed.length ∧
      (error.kind = .handler ∨ error.kind = .unresolvedReference)

namespace Trace

variable {trace : Trace} {pipeline : Pipeline} {outcomes : List (Except Failure Json)}

/-- What an entry keeps of a stage is where it stands and how it ended, and nothing else. -/
private theorem entry_of_outcome {result : StageResult} {i : Nat} {type : String}
    {outcome : Except Failure Json} (h : result.untimed = .ofOutcome i type outcome) :
    result.index = i ∧ result.type = type ∧
      ((∃ output, result.output = some output ∧ result.error = none) ∨
        ∃ error, result.output = none ∧ result.error = some error) := by
  have hindex := congrArg StageResult.index h
  have htype := congrArg StageResult.type h
  have houtput := congrArg StageResult.output h
  have herror := congrArg StageResult.error h
  cases outcome with
  | ok output => exact ⟨hindex, htype, .inl ⟨output, houtput, herror⟩⟩
  | error failure => exact ⟨hindex, htype, .inr ⟨_, houtput, herror⟩⟩

theorem place_of_outcomes (htrace : trace.untimed = .ofOutcomes pipeline outcomes) (i : Nat)
    (result : StageResult) (hresult : trace.stages[i]? = some result) :
    result.index = i ∧ pipeline.stages[i]?.map (·.type) = some result.type := by
  obtain ⟨stage, outcome, hstage, -, heq⟩ := exists_outcome htrace hresult
  obtain ⟨hindex, htype, -⟩ := entry_of_outcome heq
  rw [hstage, Option.map_some, htype]
  exact ⟨hindex, rfl⟩

theorem outcome_of_outcomes (htrace : trace.untimed = .ofOutcomes pipeline outcomes)
    (result : StageResult) (hresult : result ∈ trace.stages) :
    (∃ output, result.output = some output ∧ result.error = none) ∨
      ∃ error, result.output = none ∧ result.error = some error := by
  obtain ⟨i, hi⟩ := List.mem_iff_getElem?.1 hresult
  obtain ⟨stage, outcome, -, -, heq⟩ := exists_outcome htrace hi
  exact (entry_of_outcome heq).2.2

theorem succeeded_of_outcomes (htrace : trace.untimed = .ofOutcomes pipeline outcomes) :
    trace.succeeded = outcomes.all (·.isOk) :=
  congrArg Trace.succeeded htrace

/-- An entry without an error has an output. -/
private theorem exists_output (htrace : trace.untimed = .ofOutcomes pipeline outcomes)
    {result : StageResult} (hresult : result ∈ trace.stages) (herror : result.error = none) :
    ∃ output, result.output = some output := by
  rcases outcome_of_outcomes htrace result hresult with ⟨output, houtput, -⟩ | ⟨error, -, hsome⟩
  · exact ⟨output, houtput⟩
  · rw [herror] at hsome
    cases hsome

theorem regular_of_completeOutcomes {outputs : List Json}
    (hlength : outputs.length = pipeline.stages.length)
    (htrace : trace.untimed = .ofOutcomes pipeline (completeOutcomes outputs)) :
    trace.Regular pipeline := by
  have houtcomes : (completeOutcomes outputs).length = pipeline.stages.length := by
    rw [completeOutcomes, List.length_map, hlength]
  have hstages := length_stages htrace (Nat.le_of_eq houtcomes)
  have hnone : ∀ result ∈ trace.stages, result.error = none := by
    intro result hresult
    cases herror : result.error with
    | none => rfl
    | some error =>
      obtain ⟨failure, hfailure, -⟩ := exists_failure_of_error htrace hresult herror
      obtain ⟨output, -, houtput⟩ := List.mem_map.1 hfailure
      cases houtput
  have hsucceeded : trace.succeeded = true := by
    rw [succeeded_of_outcomes htrace]
    exact all_isOk_completeOutcomes outputs
  exact {
    length_le := Nat.le_of_eq (hstages.trans houtcomes)
    place := place_of_outcomes htrace
    outcome := outcome_of_outcomes htrace
    completed := by
      intro i result hresult _
      have hmem := List.mem_of_getElem? hresult
      exact ⟨exists_output htrace hmem (hnone result hmem), hnone result hmem⟩
    succeeded_iff := iff_of_true hsucceeded ⟨hstages.trans houtcomes, hnone⟩
    failed := by
      intro hfailed
      rw [hsucceeded] at hfailed
      cases hfailed }

theorem regular_of_stoppedOutcomes {outputs : List Json} {failure : Failure} {type : String}
    (hlength : outputs.length < pipeline.stages.length)
    (hfailure : failure.OfStage type outputs.length)
    (htrace : trace.untimed = .ofOutcomes pipeline (stoppedOutcomes outputs failure)) :
    trace.Regular pipeline := by
  obtain ⟨completed, last, hstages, hcompleted, hnone, -, herror⟩ :=
    exists_last_of_stoppedOutcomes hlength htrace
  have hsucceeded : trace.succeeded = false := by
    rw [succeeded_of_outcomes htrace]
    exact all_isOk_stoppedOutcomes outputs failure
  have hlengthStages : trace.stages.length = completed.length + 1 := by
    rw [hstages, List.length_append, List.length_singleton]
  exact {
    length_le := by omega
    place := place_of_outcomes htrace
    outcome := outcome_of_outcomes htrace
    completed := by
      intro i result hresult hi
      have hlt : i < completed.length := by omega
      have hmem : result ∈ completed := by
        rw [hstages, List.getElem?_append_left hlt] at hresult
        exact List.mem_of_getElem? hresult
      exact ⟨exists_output htrace (List.mem_of_getElem? hresult) (hnone result hmem),
        hnone result hmem⟩
    succeeded_iff := by
      rw [hsucceeded]
      refine iff_of_false Bool.false_ne_true ?_
      rintro ⟨-, hall⟩
      have hlast := hall last (by rw [hstages]; exact List.mem_concat_self)
      rw [herror] at hlast
      cases hlast
    failed := by
      intro _
      refine ⟨completed, last, _, hstages, hnone, herror, ?_, ?_⟩
      · rw [StageError.stageIndex_ofFailure, hfailure.stageIndex, Option.getD_some, hcompleted]
      · rw [StageError.kind_ofFailure]
        exact hfailure.kind }

theorem error?_eq_none_iff : trace.error? = none ↔ trace.failure? = none := by
  simp only [Trace.error?, Trace.failure?, List.findSome?_eq_none_iff, Option.map_eq_none_iff]

namespace Regular

theorem kind_of_error (h : trace.Regular pipeline) {result : StageResult}
    (hresult : result ∈ trace.stages) {error : StageError} (herror : result.error = some error) :
    error.kind = .handler ∨ error.kind = .unresolvedReference := by
  cases hsucceeded : trace.succeeded with
  | true =>
    rw [(h.succeeded_iff.1 hsucceeded).2 result hresult] at herror
    cases herror
  | false =>
    obtain ⟨completed, last, recorded, hstages, hnone, hlast, -, hkind⟩ := h.failed hsucceeded
    rw [hstages] at hresult
    rcases List.mem_append.1 hresult with hmem | hmem
    · rw [hnone result hmem] at herror
      cases herror
    · obtain rfl := List.mem_singleton.1 hmem
      obtain rfl := Option.some.inj (hlast.symm.trans herror)
      exact hkind

/-- The flag of a trace and its first error tell the same. -/
theorem succeeded_iff_failure? (h : trace.Regular pipeline) :
    trace.succeeded = true ↔ trace.failure? = none := by
  constructor
  · intro hsucceeded
    exact List.findSome?_eq_none_iff.2 (h.succeeded_iff.1 hsucceeded).2
  · intro hnone
    cases hsucceeded : trace.succeeded with
    | true => rfl
    | false =>
      obtain ⟨completed, last, error, hstages, -, herror, -, -⟩ := h.failed hsucceeded
      have hlast : last ∈ trace.stages := by
        rw [hstages]
        exact List.mem_concat_self
      have hlastNone := List.findSome?_eq_none_iff.1 hnone last hlast
      rw [herror] at hlastNone
      cases hlastNone

theorem succeeded_iff_toResult (h : trace.Regular pipeline) :
    trace.succeeded = true ↔ ∃ result, trace.toResult = .ok result := by
  rw [h.succeeded_iff_failure?, ← error?_eq_none_iff, Trace.toResult]
  cases trace.error? <;> simp

theorem finalOutput?_eq_none (h : trace.Regular pipeline)
    (hnone : trace.succeeded = false ∨ pipeline.stages = []) : trace.finalOutput? = none := by
  rw [Trace.finalOutput?]
  rcases hnone with hfailed | hempty
  · rw [hfailed]
    rfl
  · have hstages : trace.stages = [] := by
      have hle := h.length_le
      rw [hempty] at hle
      exact List.length_eq_zero_iff.1 (Nat.le_zero.1 hle)
    rw [hstages]
    cases trace.succeeded <;> rfl

theorem finalOutput?_eq_some (h : trace.Regular pipeline) (hsucceeded : trace.succeeded = true)
    (hne : pipeline.stages ≠ []) :
    ∃ last output, trace.stages[pipeline.stages.length - 1]? = some last ∧
      last.output = some output ∧ trace.finalOutput? = some output := by
  obtain ⟨hlength, hnone⟩ := h.succeeded_iff.1 hsucceeded
  have hpositive := List.length_pos_iff.2 hne
  have hlt : pipeline.stages.length - 1 < trace.stages.length := by omega
  have hlast : trace.stages[pipeline.stages.length - 1]? =
      some trace.stages[pipeline.stages.length - 1] :=
    List.getElem?_eq_getElem hlt
  rcases h.outcome _ (List.getElem_mem hlt) with ⟨output, houtput, -⟩ | ⟨error, -, herror⟩
  · refine ⟨_, output, hlast, houtput, ?_⟩
    rw [Trace.finalOutput?, if_pos hsucceeded, List.getLast?_eq_getElem?, hlength, hlast,
      Option.bind_some, houtput]
  · rw [hnone _ (List.getElem_mem hlt)] at herror
    cases herror

end Regular

end Trace

/-- The run of a pipeline of registered types leaves a trace of the regular form. -/
theorem HistoryRun.regular {registry : Registry σ} {pipeline : Pipeline} {s final : σ}
    {calls : List Call} {outcomes : List (Except Failure Json)} {trace : Trace}
    (hrun : HistoryRun registry [] s pipeline.stages calls outcomes final)
    (hregistered : ∀ stage ∈ pipeline.stages, registry.has stage.type = true)
    (htrace : trace.untimed = .ofOutcomes pipeline outcomes) : trace.Regular pipeline := by
  rcases hrun.ends hregistered rfl Outputs.records_empty .start with
    ⟨outputs, rfl, hlength, -⟩ | ⟨outputs, failure, rfl, hfails⟩
  · exact Trace.regular_of_completeOutcomes hlength htrace
  · rw [List.length_nil, Nat.zero_add] at hfails
    obtain ⟨stage, hstage, hfailure⟩ := hfails.exists_ofStage hregistered
    exact Trace.regular_of_stoppedOutcomes (List.getElem?_eq_some_iff.1 hstage).1 hfailure htrace

/-- Executing a pipeline of registered types leaves a trace of the regular form, whatever the
    handlers do, and all ways to ask such a trace for its outcome agree: the flag, the first error,
    the result, and the final output, which is that of the last stage. -/
theorem Pipeline.execute_regular (pipeline : Pipeline) (registry : Registry σ)
    (hregistered : ∀ stage ∈ pipeline.stages, registry.has stage.type = true)
    (clock : σ → Nat) (s : σ) :
    ∃ trace final, pipeline.execute clock registry s = (.ok trace, final) ∧
      trace.Regular pipeline ∧
      (trace.succeeded = true ↔ trace.failure? = none) ∧
      (trace.succeeded = true ↔ ∃ result, trace.toResult = .ok result) ∧
      (trace.succeeded = false ∨ pipeline.stages = [] → trace.finalOutput? = none) ∧
      (trace.succeeded = true → pipeline.stages ≠ [] →
        ∃ last output, trace.stages[pipeline.stages.length - 1]? = some last ∧
          last.output = some output ∧ trace.finalOutput? = some output) := by
  obtain ⟨calls, outcomes, final, hrun⟩ := HistoryRun.exists_of_registered [] s hregistered
  obtain ⟨trace, hplain, -, huntimed⟩ := hrun.execute_eq hregistered clock
  have hregular := hrun.regular hregistered huntimed
  exact ⟨trace, final, hplain, hregular, hregular.succeeded_iff_failure?,
    hregular.succeeded_iff_toResult, hregular.finalOutput?_eq_none,
    hregular.finalOutput?_eq_some⟩

/-- One stage type, whose handler succeeds at its first call and fails at every other. -/
def Registry.once : Registry Nat :=
  Registry.empty.register "once"
    ⟨"Succeeds once", fun _ calls =>
      (if calls = 0 then .ok .null else .error ⟨"used up", some "Start again"⟩, calls + 1)⟩

def Pipeline.twice : Pipeline :=
  ⟨"twice", [⟨"once", .empty⟩, ⟨"once", .empty⟩]⟩

/-- A failure in the last stage leaves an entry for every stage and no final output. -/
theorem Pipeline.execute_regular_twice :
    (∀ stage ∈ twice.stages, Registry.once.has stage.type = true) ∧
      ∃ trace, twice.execute id Registry.once 0 = (.ok trace, 2) ∧ trace.Regular twice ∧
        trace.stages.length = 2 ∧ trace.succeeded = false ∧ trace.failure? ≠ none ∧
        trace.finalOutput? = none := by
  have hregistered : ∀ stage ∈ twice.stages, Registry.once.has stage.type = true := by
    decide
  obtain ⟨trace, final, hplain, hregular, hfailure, -, houtput, -⟩ :=
    execute_regular twice .once hregistered id 0
  have hrun : twice.execute id Registry.once 0 =
      (.ok ⟨"twice", [⟨0, "once", some .null, none, 1⟩,
        ⟨1, "once", none, some ⟨.handler, "used up", 1, none, some "Start again"⟩, 1⟩],
        false, 2⟩, 2) := by
    rfl
  rw [hrun, Prod.mk.injEq, Except.ok.injEq] at hplain
  obtain ⟨rfl, rfl⟩ := hplain
  refine ⟨hregistered, _, hrun, hregular, rfl, rfl, ?_, houtput (.inl rfl)⟩
  rw [Ne, ← hfailure]
  exact Bool.false_ne_true

end Stageflow
