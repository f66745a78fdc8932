import Stageflow.Cli.Command
import Stageflow.Proofs.Check.Preflight
import Stageflow.Proofs.Check.Warnings
import Stageflow.Proofs.Expression.Acceptance

namespace Stageflow

variable {σ : Type}

theorem Pipeline.isValid_check_iff {pipeline : Pipeline} {registry : Registry σ} :
    (pipeline.check registry).isValid = true ↔
      ∀ stage ∈ pipeline.stages, registry.has stage.type = true := by
  rw [← errors_check_eq_nil_iff, Findings.isValid, Findings.errors, List.isEmpty_iff,
    List.map_eq_nil_iff]

theorem Pipeline.execute_eq_ok_iff {pipeline : Pipeline} {registry : Registry σ}
    (clock : σ → Nat) (s : σ) :
    (∃ trace final, pipeline.execute clock registry s = (.ok trace, final)) ↔
      ∀ stage ∈ pipeline.stages, registry.has stage.type = true := by
  constructor
  · rintro ⟨trace, final, hexecute⟩
    exact registered_of_execute hexecute
  · intro hregistered
    obtain ⟨calls, outcomes, final, hrun⟩ := HistoryRun.exists_of_registered [] s hregistered
    obtain ⟨trace, hexecute, -⟩ := hrun.execute_eq hregistered clock
    exact ⟨trace, final, hexecute⟩

/-- A pipeline without warnings leaves no trace of an error that is not a handler's. -/
theorem Pipeline.kind_of_failure? {pipeline : Pipeline} {registry : Registry σ}
    {clock : σ → Nat} {s final : σ} {trace : Trace}
    (hexecute : pipeline.execute clock registry s = (.ok trace, final))
    (hwarnings : (pipeline.check registry).warnings = []) {error : StageError}
    (herror : trace.failure? = some error) : error.kind = .handler := by
  obtain ⟨calls, outcomes, hrun, huntimed⟩ := exists_historyRun_of_execute hexecute
  obtain ⟨result, hresult, hentry⟩ := List.exists_of_findSome?_eq_some herror
  obtain ⟨failure, hfailure, place, rfl⟩ := trace.exists_failure_of_error huntimed hresult hentry
  have hclean : danglingAfter registry [] pipeline.stages = [] :=
    Findings.warnings_eq_nil_iff.1 hwarnings
  rw [StageError.kind_ofFailure]
  exact hrun.kind_eq_handler hclean hfailure

theorem StageError.toFailure_of_handler {error : StageError} (h : error.kind = .handler)
    (type : String) :
    error.toFailure type = .handler type error.stageIndex ⟨error.message, error.help⟩ := by
  rw [toFailure, h]

theorem Trace.attributedFailure?_eq_none_iff {trace : Trace} :
    trace.attributedFailure? = none ↔ trace.failure? = none := by
  rw [attributedFailure?, Option.map_eq_none_iff]

namespace Cli

theorem Outcome.exitCode_eq_zero_iff {outcome : Outcome} :
    outcome.exitCode = 0 ↔ outcome.result = .ok () := by
  rw [exitCode]
  cases outcome.result with
  | ok => simp
  | error complaint => cases complaint <;> simp [Complaint.exitCode]

theorem Outcome.result_advised (palette : Palette) (available : List String) (output : String)
    (failure : Failure) :
    (advised palette available output failure).result = .error (.failure failure) := by
  rw [advised]
  split <;> rfl

theorem check_result_iff (palette : Palette) (verbose : Bool) (registry : Registry σ)
    (expression : String) :
    (check palette verbose registry expression).result = .ok () ↔
      ∃ pipeline, Pipeline.parse expression = .ok pipeline ∧
        (pipeline.check registry).isValid = true := by
  rw [check]
  cases Pipeline.parse expression with
  | error failure => simp [Outcome.failed]
  | ok pipeline =>
    cases hvalid : (pipeline.check registry).isValid with
    | false => simp [hvalid, Outcome.failed]
    | true =>
      cases hwarnings : (pipeline.check registry).hasWarnings <;>
        simp [hvalid, hwarnings, Outcome.done]

section Run

variable (palette : Palette) (format : Format) (verbose : Bool) {clock : σ → Nat}
  {registry : Registry σ} {expression : String} {s final : σ} {pipeline : Pipeline} {trace : Trace}
  {failure : Failure}

/-- A run ends well if its trace has no error, and otherwise with the failure of the stage that its
    first error names. -/
theorem runOutcome_result (available : List String) :
    (runOutcome palette format verbose available pipeline trace).result =
      match trace.attributedFailure? with
      | none => .ok ()
      | some failure => .error (.failure failure) := by
  cases hfailure : trace.attributedFailure? with
  | none => cases format <;> simp only [runOutcome, hfailure, Outcome.done]
  | some failure =>
    cases format with
    | json => simp only [runOutcome, hfailure, Outcome.failed]
    | text => simp only [runOutcome, hfailure, Outcome.result_advised]

theorem runOutcome_result_iff (available : List String) :
    (runOutcome palette format verbose available pipeline trace).result = .ok () ↔
      trace.failure? = none := by
  rw [runOutcome_result, ← Trace.attributedFailure?_eq_none_iff]
  cases trace.attributedFailure? <;> simp

theorem run_of_parse_error (hparse : Pipeline.parse expression = .error failure) :
    (run palette format none verbose clock registry expression s).1.result =
      .error (.failure failure) := by
  simp only [run, hparse]
  exact Outcome.result_advised palette registry.types "" failure

theorem run_of_execute_error (hparse : Pipeline.parse expression = .ok pipeline)
    (hexecute : pipeline.execute clock registry s = (.error failure, final)) :
    (run palette format none verbose clock registry expression s).1.result =
      .error (.failure failure) := by
  simp only [run, hparse, hexecute]
  exact Outcome.result_advised palette registry.types "" failure

/-- Without a limit of time no run is late. -/
theorem run_of_execute (hparse : Pipeline.parse expression = .ok pipeline)
    (hexecute : pipeline.execute clock registry s = (.ok trace, final)) :
    run palette format none verbose clock registry expression s =
      (runOutcome palette format verbose registry.types pipeline trace, final) := by
  simp only [run, hparse, hexecute, isLate, Option.any_none, Bool.false_eq_true, if_false]

/-- A run without a limit of time ends well exactly if it leaves the trace of a success. -/
theorem run_result_iff :
    (run palette format none verbose clock registry expression s).1.result = .ok () ↔
      ∃ pipeline, Pipeline.parse expression = .ok pipeline ∧
        ∃ trace final, pipeline.execute clock registry s = (.ok trace, final) ∧
          trace.succeeded = true := by
  cases hparse : Pipeline.parse expression with
  | error failure =>
    rw [run_of_parse_error palette format verbose hparse]
    simp
  | ok pipeline =>
    cases hexecute : pipeline.execute clock registry s with
    | mk result final =>
      cases result with
      | error failure =>
        rw [run_of_execute_error palette format verbose hparse hexecute]
        simp [hexecute]
      | ok trace =>
        have hregular := Pipeline.regular_of_execute hexecute
        rw [run_of_execute palette format verbose hparse hexecute, runOutcome_result_iff,
          ← hregular.succeeded_iff_failure?]
        simp [hexecute]

/-- Where an expression parses to a pipeline without warnings whose types are registered, a run can
    fail only with the failure of a handler. -/
theorem run_result_of_check {complaint : Complaint}
    (hparse : Pipeline.parse expression = .ok pipeline)
    (hvalid : (pipeline.check registry).isValid = true)
    (hwarnings : (pipeline.check registry).warnings = [])
    (hfailed : (run palette format none verbose clock registry expression s).1.result =
      .error complaint) :
    ∃ type index error, complaint = .failure (.handler type index error) := by
  obtain ⟨trace, final, hexecute⟩ :=
    (Pipeline.execute_eq_ok_iff clock s).2 (Pipeline.isValid_check_iff.1 hvalid)
  rw [run_of_execute palette format verbose hparse hexecute, runOutcome_result,
    Trace.attributedFailure?] at hfailed
  cases hfailure : trace.failure? with
  | none =>
    rw [hfailure] at hfailed
    cases hfailed
  | some error =>
    rw [hfailure, Option.map_some,
      StageError.toFailure_of_handler (Pipeline.kind_of_failure? hexecute hwarnings hfailure)]
      at hfailed
    cases hfailed
    exact ⟨_, _, _, rfl⟩

end Run

/-- A check ends well exactly if the expression parses and its execution leaves a trace. -/
theorem check_result_iff_execute (palette : Palette) (verbose : Bool) (registry : Registry σ)
    (expression : String) (clock : σ → Nat) (s : σ) :
    (check palette verbose registry expression).result = .ok () ↔
      ∃ pipeline, Pipeline.parse expression = .ok pipeline ∧
        ∃ trace final, pipeline.execute clock registry s = (.ok trace, final) := by
  rw [check_result_iff]
  simp only [Pipeline.isValid_check_iff, Pipeline.execute_eq_ok_iff clock s]

/-- How a command ends agrees with what becomes of the expression. A check ends well exactly if the
    expression parses and its execution leaves a trace, so that a run gets past parsing and
    preflight. A run without a limit of time ends well exactly if the trace also is that of a
    success, in either format. Where a check ends well without warnings, a run fails only with the
    failure of a handler. The exit code is zero exactly if a command ends well. -/
theorem exit_status (palette : Palette) (format : Format) (verbose verbose' : Bool) (clock : σ → Nat)
    (registry : Registry σ) (expression : String) (s : σ) :
    ((check palette verbose registry expression).result = .ok () ↔
        ∃ pipeline, Pipeline.parse expression = .ok pipeline ∧
          ∃ trace final, pipeline.execute clock registry s = (.ok trace, final)) ∧
      ((run palette format none verbose' clock registry expression s).1.result = .ok () ↔
        ∃ pipeline, Pipeline.parse expression = .ok pipeline ∧
          ∃ trace final, pipeline.execute clock registry s = (.ok trace, final) ∧
            trace.succeeded = true) ∧
      ((check palette verbose registry expression).result = .ok () →
        (∀ pipeline, Pipeline.parse expression = .ok pipeline →
          (pipeline.check registry).warnings = []) →
        ∀ complaint,
          (run palette format none verbose' clock registry expression s).1.result =
            .error complaint →
          ∃ failure, complaint = .failure failure ∧ failure.kind = .handler ∧
            ∃ type index error, failure = .handler type index error) ∧
      ∀ outcome : Outcome, outcome.exitCode = 0 ↔ outcome.result = .ok () := by
  refine ⟨check_result_iff_execute palette verbose registry expression clock s,
    run_result_iff palette format verbose', ?_, fun _ => Outcome.exitCode_eq_zero_iff⟩
  intro hcheck hwarnings complaint hfailed
  obtain ⟨pipeline, hparse, hvalid⟩ := (check_result_iff _ _ _ _).1 hcheck
  obtain ⟨type, index, error, rfl⟩ :=
    run_result_of_check palette format verbose' hparse hvalid (hwarnings pipeline hparse) hfailed
  exact ⟨_, rfl, rfl, type, index, error, rfl⟩

/-- A check finds nothing wrong with a handler that fails at its second call, and the run fails with
    the failure of that handler. -/
theorem exit_status_once :
    (check ⟨false⟩ false Registry.once "once | once").result = .ok () ∧
      (∀ pipeline, Pipeline.parse "once | once" = .ok pipeline →
        (pipeline.check Registry.once).warnings = []) ∧
      ∃ failure,
        (run ⟨false⟩ .text none false id Registry.once "once | once" 0).1.result =
          .error (.failure failure) ∧
        failure.kind = .handler ∧ ∃ type index error, failure = .handler type index error := by
  obtain ⟨label, hparse⟩ : ∃ label,
      Pipeline.parse "once | once" = .ok ⟨label, Pipeline.twice.stages⟩ := by
    have hstages : Expression.stages "once | once".toList = .ok Pipeline.twice.stages := by
      decide +kernel
    exact ⟨Expression.label "once | once".toList _,
      Pipeline.parse_eq_ok_iff.2 ⟨Expression.stages_eq_ok_iff.1 hstages, rfl⟩⟩
  obtain ⟨trace, hexecute, hsucceeded⟩ : ∃ trace,
      Pipeline.execute ⟨label, Pipeline.twice.stages⟩ id Registry.once 0 = (.ok trace, 2) ∧
        trace.succeeded = false :=
    ⟨_, rfl, rfl⟩
  obtain ⟨hcheck, hrun, hhandler, -⟩ :=
    exit_status ⟨false⟩ .text false false id .once "once | once" 0
  have hpasses := hcheck.2 ⟨_, hparse, _, _, hexecute⟩
  have hwarnings : ∀ pipeline, Pipeline.parse "once | once" = .ok pipeline →
      (pipeline.check Registry.once).warnings = [] := by
    intro pipeline hpipeline
    obtain rfl := Except.ok.inj (hparse.symm.trans hpipeline)
    rfl
  refine ⟨hpasses, hwarnings, ?_⟩
  cases hresult : (run ⟨false⟩ .text none false id Registry.once "once | once" 0).1.result with
  | ok =>
    obtain ⟨pipeline, hpipeline, trace', final, hexecute', hsucceeded'⟩ := hrun.1 hresult
    obtain rfl := Except.ok.inj (hparse.symm.trans hpipeline)
    rw [hexecute, Prod.mk.injEq, Except.ok.injEq] at hexecute'
    rw [← hexecute'.1, hsucceeded] at hsucceeded'
    cases hsucceeded'
  | error complaint =>
    obtain ⟨failure, rfl, hkind⟩ := hhandler hpasses hwarnings complaint hresult
    exact ⟨failure, rfl, hkind⟩

end Cli

end Stageflow
