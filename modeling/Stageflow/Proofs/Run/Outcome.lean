import Stageflow.Proofs.Run.History

namespace Stageflow

variable {σ : Type}

theorem HistoryRun.length_outcomes_le {registry : Registry σ} {history : History} {s final : σ}
    {stages : List Stage} {calls : List Call} {outcomes : List (Except Failure Json)}
    (hrun : HistoryRun registry history s stages calls outcomes final) :
    outcomes.length ≤ stages.length := by
  induction hrun with
  | finished => simp
  | stopped => simp
  | continued _ _ ih => simpa using ih

theorem StageError.kind_ofFailure (failure : Failure) (index : Nat) :
    (ofFailure failure index).kind = failure.kind := by
  cases failure <;> rfl

theorem StageError.stageIndex_ofFailure (failure : Failure) (index : Nat) :
    (ofFailure failure index).stageIndex = failure.stageIndex.getD index := by
  cases failure <;> rfl

/-- The outcomes of a run that got to its end. -/
def completeOutcomes (outputs : List Json) : List (Except Failure Json) :=
  outputs.map .ok

/-- The outcomes of a run that failed behind some outputs. -/
def stoppedOutcomes (outputs : List Json) (failure : Failure) : List (Except Failure Json) :=
  outputs.map .ok ++ [.error failure]

theorem all_isOk_completeOutcomes (outputs : List Json) :
    (completeOutcomes outputs).all (·.isOk) = true := by
  simp [completeOutcomes, Except.isOk, Except.toBool]

theorem all_isOk_stoppedOutcomes (outputs : List Json) (failure : Failure) :
    (stoppedOutcomes outputs failure).all (·.isOk) = false := by
  simp [stoppedOutcomes, Except.isOk, Except.toBool]

theorem length_stoppedOutcomes (outputs : List Json) (failure : Failure) :
    (stoppedOutcomes outputs failure).length = outputs.length + 1 := by
  rw [stoppedOutcomes, List.length_append, List.length_map, List.length_singleton]

theorem StageResult.getElem?_ofOutcomes (index : Nat) (stages : List Stage)
    (outcomes : List (Except Failure Json)) (i : Nat) :
    (ofOutcomes index stages outcomes)[i]? =
      stages[i]?.bind fun stage => outcomes[i]?.map (ofOutcome (index + i) stage.type) := by
  induction stages generalizing index outcomes i with
  | nil => rfl
  | cons stage stages ih =>
    cases outcomes with
    | nil => simp [ofOutcomes]
    | cons outcome outcomes =>
      cases i with
      | zero => rfl
      | succ i =>
        rw [ofOutcomes, List.getElem?_cons_succ, ih, Nat.add_right_comm]
        rfl

theorem StageResult.length_ofOutcomes (index : Nat) {stages : List Stage}
    {outcomes : List (Except Failure Json)} (h : outcomes.length ≤ stages.length) :
    (ofOutcomes index stages outcomes).length = outcomes.length := by
  induction stages generalizing index outcomes with
  | nil =>
    rw [List.length_eq_zero_iff.1 (Nat.le_zero.1 h)]
    rfl
  | cons stage stages ih =>
    cases outcomes with
    | nil => rfl
    | cons outcome outcomes =>
      rw [ofOutcomes, List.length_cons, ih (index + 1) (by simpa using h), List.length_cons]

namespace Trace

variable {trace : Trace} {pipeline : Pipeline} {outcomes : List (Except Failure Json)}

theorem length_stages (htrace : trace.untimed = .ofOutcomes pipeline outcomes)
    (hlength : outcomes.length ≤ pipeline.stages.length) :
    trace.stages.length = outcomes.length := by
  have huntimed : trace.untimed.stages.length = trace.stages.length := List.length_map _
  rw [← huntimed, htrace]
  exact StageResult.length_ofOutcomes 0 hlength

/-- An entry of a trace tells how the stage in its place ended. -/
theorem exists_outcome (htrace : trace.untimed = .ofOutcomes pipeline outcomes) {i : Nat}
    {result : StageResult} (hresult : trace.stages[i]? = some result) :
    ∃ stage outcome, pipeline.stages[i]? = some stage ∧ outcomes[i]? = some outcome ∧
      result.untimed = .ofOutcome i stage.type outcome := by
  have huntimed : trace.untimed.stages[i]? = some result.untimed := by
    rw [untimed, List.getElem?_map, hresult]
    rfl
  rw [htrace, Trace.ofOutcomes, StageResult.getElem?_ofOutcomes, Nat.zero_add,
    Option.bind_eq_some_iff] at huntimed
  obtain ⟨stage, hstage, houtcome⟩ := huntimed
  obtain ⟨outcome, houtcome, hresult⟩ := Option.map_eq_some_iff.1 houtcome
  exact ⟨stage, outcome, hstage, houtcome, hresult.symm⟩

/-- An error in a trace is the record of a failure among the outcomes. -/
theorem exists_failure_of_error (htrace : trace.untimed = .ofOutcomes pipeline outcomes)
    {result : StageResult} (hresult : result ∈ trace.stages) {error : StageError}
    (herror : result.error = some error) :
    ∃ failure, .error failure ∈ outcomes ∧ ∃ place, error = .ofFailure failure place := by
  obtain ⟨i, hi⟩ := List.mem_iff_getElem?.1 hresult
  obtain ⟨stage, outcome, -, houtcome, heq⟩ := exists_outcome htrace hi
  have herror' := (congrArg StageResult.error heq).symm.trans herror
  cases outcome with
  | ok output => cases herror'
  | error failure =>
    exact ⟨failure, List.mem_of_getElem? houtcome, i, (Option.some.inj herror').symm⟩

/-- The trace of a run that failed consists of the entries of stages that did not, and of one for
    the stage that did. -/
theorem exists_last_of_stoppedOutcomes {outputs : List Json} {failure : Failure}
    (hlength : outputs.length < pipeline.stages.length)
    (htrace : trace.untimed = .ofOutcomes pipeline (stoppedOutcomes outputs failure)) :
    ∃ completed last, trace.stages = completed ++ [last] ∧ completed.length = outputs.length ∧
      (∀ result ∈ completed, result.error = none) ∧
      pipeline.stages[outputs.length]?.map (·.type) = some last.type ∧
      last.error = some (.ofFailure failure outputs.length) := by
  have hstages := length_stages htrace (by rwa [length_stoppedOutcomes])
  rw [length_stoppedOutcomes] at hstages
  rcases List.eq_nil_or_concat trace.stages with hnil | ⟨completed, last, hconcat⟩
  · rw [hnil] at hstages
    cases hstages
  · rw [List.concat_eq_append] at hconcat
    have hcompleted : completed.length = outputs.length := by
      rw [hconcat, List.length_append, List.length_singleton] at hstages
      exact Nat.succ.inj hstages
    refine ⟨completed, last, hconcat, hcompleted, ?_, ?_⟩
    · intro result hresult
      obtain ⟨i, hi⟩ := List.mem_iff_getElem?.1 hresult
      have hlt : i < completed.length := (List.getElem?_eq_some_iff.1 hi).1
      have hentry : trace.stages[i]? = some result := by
        rw [hconcat, List.getElem?_append_left hlt, hi]
      obtain ⟨stage, outcome, -, houtcome, heq⟩ := exists_outcome htrace hentry
      rw [hcompleted] at hlt
      rw [stoppedOutcomes, List.getElem?_append_left (by rwa [List.length_map]),
        List.getElem?_map, List.getElem?_eq_getElem hlt] at houtcome
      cases houtcome
      exact congrArg StageResult.error heq
    · have hentry : trace.stages[outputs.length]? = some last := by
        rw [hconcat, ← hcompleted, List.getElem?_concat_length]
      obtain ⟨stage, outcome, hstage, houtcome, heq⟩ := exists_outcome htrace hentry
      have hfailure : (stoppedOutcomes outputs failure)[outputs.length]? =
          some (.error failure) := by
        rw [stoppedOutcomes, ← List.length_map (f := Except.ok), List.getElem?_concat_length]
      rw [hfailure] at houtcome
      cases houtcome
      have htype : last.type = stage.type := congrArg StageResult.type heq
      rw [hstage, Option.map_some, htype]
      exact ⟨rfl, congrArg StageResult.error heq⟩

theorem failure?_of_last {completed : List StageResult} {last : StageResult}
    (hstages : trace.stages = completed ++ [last])
    (hcompleted : ∀ result ∈ completed, result.error = none) :
    trace.failure? = last.error := by
  rw [failure?, hstages, List.findSome?_append, List.findSome?_eq_none_iff.2 hcompleted,
    Option.none_or, List.findSome?_singleton]

/-- The trace ends with the entry of a stage that failed with the given error, and no entry before
    it has an error. -/
structure EndsWith (trace : Trace) (error : StageError) : Prop where
  succeeded : trace.succeeded = false
  length_stages : trace.stages.length = error.stageIndex + 1
  failure? : trace.failure? = some error

theorem endsWith_of_stoppedOutcomes {outputs : List Json} {failure : Failure}
    (hlength : (stoppedOutcomes outputs failure).length ≤ pipeline.stages.length)
    (htrace : trace.untimed = .ofOutcomes pipeline (stoppedOutcomes outputs failure))
    (hindex : failure.stageIndex = some outputs.length) :
    trace.EndsWith (.ofFailure failure outputs.length) := by
  rw [length_stoppedOutcomes] at hlength
  obtain ⟨completed, last, hstages, hcompleted, hnone, -, herror⟩ :=
    exists_last_of_stoppedOutcomes hlength htrace
  have hsucceeded : trace.untimed.succeeded = trace.succeeded := rfl
  constructor
  · rw [← hsucceeded, htrace]
    exact all_isOk_stoppedOutcomes outputs failure
  · rw [hstages, List.length_append, List.length_singleton, hcompleted,
      StageError.stageIndex_ofFailure, hindex, Option.getD_some]
  · rw [failure?_of_last hstages hnone, herror]

end Trace

/-! What a trace tells about a run. -/

/-- The error that a trace has for a failure. An unresolved reference is named and told of in a
    sentence, a failed handler speaks in its own words. -/
inductive StageError.Tells : StageError → Failure → Prop where
  | unresolved (reference type : String) (index : Nat) :
      Tells
        ⟨.unresolvedReference,
          s!"Stage {index} ('{type}') references '\x7b\x7b{reference}\x7d\x7d' which has not run yet",
          index, some reference, none⟩
        (.unresolvedReference reference type index)
  | handler (type : String) (index : Nat) (message : String) (help : Option String) :
      Tells ⟨.handler, message, index, none, help⟩ (.handler type index ⟨message, help⟩)

/-- The entry that a trace has for a stage that ended in a given way, however long it took. -/
inductive StageResult.Tells (index : Nat) (type : String) :
    StageResult → Except Failure Json → Prop where
  | output (output : Json) (duration : Nat) :
      Tells index type ⟨index, type, some output, none, duration⟩ (.ok output)
  | failure {error : StageError} {failure : Failure} (duration : Nat)
      (herror : error.Tells failure) :
      Tells index type ⟨index, type, none, some error, duration⟩ (.error failure)

/-- A trace tells how the stages ended that were reached, and of no others. -/
structure Trace.Tells (trace : Trace) (pipeline : Pipeline)
    (outcomes : List (Except Failure Json)) : Prop where
  name : trace.pipeline = pipeline.name
  length_stages : trace.stages.length = outcomes.length
  entry : ∀ (i : Nat) (result : StageResult), trace.stages[i]? = some result →
    ∃ stage outcome, pipeline.stages[i]? = some stage ∧ outcomes[i]? = some outcome ∧
      result.Tells i stage.type outcome
  succeeded_iff : trace.succeeded = true ↔ ∀ outcome ∈ outcomes, ∃ output, outcome = .ok output

theorem StageResult.tells_of_untimed {result : StageResult} {index : Nat} {type : String}
    {outcome : Except Failure Json} (h : result.untimed = .ofOutcome index type outcome)
    (herror : ∀ failure, outcome = .error failure →
      (StageError.ofFailure failure index).Tells failure) : result.Tells index type outcome := by
  obtain ⟨index', type', output, error, duration⟩ := result
  cases outcome with
  | ok output =>
    simp only [untimed, ofOutcome, mk.injEq] at h
    obtain ⟨rfl, rfl, rfl, rfl, -⟩ := h
    exact .output output duration
  | error failure =>
    simp only [untimed, ofOutcome, mk.injEq] at h
    obtain ⟨rfl, rfl, rfl, rfl, -⟩ := h
    exact .failure duration (herror failure rfl)

/-- A stage fails in two ways only, which its error tells apart. -/
theorem Attempt.tells_ofFailure {registry : Registry σ} {output? : String → Option Json}
    {index : Nat} {stage : Stage} {s after : σ} {calls : List Call} {failure : Failure}
    (hattempt : Attempt registry output? index stage s calls (.error failure) after)
    (place : Nat) : (StageError.ofFailure failure place).Tells failure := by
  cases hattempt with
  | unresolved => exact .unresolved _ _ _
  | failed => exact .handler _ _ _ _

namespace HistoryRun

variable {registry : Registry σ} {s final : σ} {calls : List Call}
  {outcomes : List (Except Failure Json)}

theorem tells_ofFailure {history : History} {stages : List Stage}
    (hrun : HistoryRun registry history s stages calls outcomes final) {failure : Failure}
    (hfailure : .error failure ∈ outcomes) (place : Nat) :
    (StageError.ofFailure failure place).Tells failure := by
  induction hrun with
  | finished => cases hfailure
  | stopped hattempt =>
    obtain rfl := Except.error.inj (List.mem_singleton.1 hfailure)
    exact hattempt.tells_ofFailure place
  | continued _ _ ih =>
    rcases List.mem_cons.1 hfailure with h | h
    · cases h
    · exact ih h

theorem tells {pipeline : Pipeline} {trace : Trace}
    (hrun : HistoryRun registry [] s pipeline.stages calls outcomes final)
    (htrace : trace.untimed = .ofOutcomes pipeline outcomes) : trace.Tells pipeline outcomes where
  name := congrArg Trace.pipeline htrace
  length_stages := trace.length_stages htrace hrun.length_outcomes_le
  entry := by
    intro i result hresult
    obtain ⟨stage, outcome, hstage, houtcome, heq⟩ := trace.exists_outcome htrace hresult
    refine ⟨stage, outcome, hstage, houtcome, StageResult.tells_of_untimed heq ?_⟩
    rintro failure rfl
    exact hrun.tells_ofFailure (List.mem_of_getElem? houtcome) i
  succeeded_iff := by
    have hsucceeded : trace.succeeded = outcomes.all (·.isOk) := congrArg Trace.succeeded htrace
    rw [hsucceeded, List.all_eq_true]
    refine forall₂_congr fun outcome _ => ?_
    cases outcome <;> simp [Except.isOk, Except.toBool]

end HistoryRun

/-- A pipeline of registered stage types is executed as its history prescribes: handlers are called
    in the order and with the options of its one run, and the trace tells the outputs and errors of
    that run. Handlers are arbitrary functions of a state of any type. -/
theorem Pipeline.execute_historyRun (pipeline : Pipeline) (registry : Registry σ)
    (clock : σ → Nat) (s : σ)
    (hregistered : ∀ stage ∈ pipeline.stages, registry.has stage.type = true) :
    ∃ trace calls outcomes final,
      pipeline.execute clock registry s = (.ok trace, final) ∧
      pipeline.execute (fun s => clock s.1) registry.recorded (s, []) =
        (.ok trace, final, calls) ∧
      trace.Tells pipeline outcomes ∧
      ∀ calls' outcomes' final',
        HistoryRun registry [] s pipeline.stages calls' outcomes' final' ↔
          calls' = calls ∧ outcomes' = outcomes ∧ final' = final := by
  obtain ⟨calls, outcomes, final, hrun⟩ := HistoryRun.exists_of_registered [] s hregistered
  obtain ⟨trace, hplain, hrecorded, huntimed⟩ := hrun.execute_eq hregistered clock
  refine ⟨trace, calls, outcomes, final, hplain, hrecorded, hrun.tells huntimed, ?_⟩
  intro calls' outcomes' final'
  constructor
  · exact hrun.unique
  · rintro ⟨rfl, rfl, rfl⟩
    exact hrun

/-- One stage type, whose handler replies with the number of its calls. -/
def Registry.counting : Registry Nat :=
  Registry.empty.register "count"
    ⟨"Counts its calls", fun _ calls => (.ok (.number (.integer (calls + 1))), calls + 1)⟩

/-- Three stages of one type, the latter two of which mention the count before them. -/
def Pipeline.counted : Pipeline :=
  ⟨"counted", [⟨"count", .empty⟩, ⟨"count", .ofList [("before", .text "\x7b\x7bcount\x7d\x7d")]⟩,
    ⟨"count", .ofList [("before", .text "\x7b\x7bcount\x7d\x7d")]⟩]⟩

/-- The same stage type, whose handler refuses every call but the first two. -/
def Registry.rationed : Registry Nat :=
  Registry.empty.register "count"
    ⟨"Counts two calls", fun _ calls =>
      (if calls < 2 then .ok (.number (.integer (calls + 1)))
        else .error ⟨"used up", some "Start again"⟩, calls + 1)⟩

/-- One stage more than two calls are enough for, and one behind it. -/
def Pipeline.rationed : Pipeline :=
  ⟨"rationed", counted.stages ++ [⟨"count", .empty⟩]⟩

/-- The second of three stages mentions a type that does not run. -/
def Pipeline.early : Pipeline :=
  ⟨"early", [⟨"count", .empty⟩,
    ⟨"count", .ofList [("after", .text "\x7b\x7btotal\x7d\x7d"),
      ("before", .text "\x7b\x7bcount\x7d\x7d")]⟩,
    ⟨"count", .empty⟩]⟩

/-- The third stage sees the count of the second, not that of the first, and its handler is the last
    one called since it fails. A stage that mentions a type without an output calls none. -/
theorem Pipeline.execute_historyRun_rationed :
    (∀ stage ∈ rationed.stages, Registry.rationed.has stage.type = true) ∧
      (∀ stage ∈ early.stages, Registry.rationed.has stage.type = true) ∧
      (∃ trace, rationed.execute id Registry.rationed 0 = (.ok trace, 3) ∧
        rationed.execute (fun s => s.1) Registry.rationed.recorded (0, []) =
          (.ok trace, 3, [⟨"count", .empty⟩, ⟨"count", .ofList [("before", .text "1")]⟩,
            ⟨"count", .ofList [("before", .text "2")]⟩]) ∧
        trace.Tells rationed [.ok (.number (.integer 1)), .ok (.number (.integer 2)),
          .error (.handler "count" 2 ⟨"used up", some "Start again"⟩)]) ∧
      ∃ trace, early.execute id Registry.rationed 0 = (.ok trace, 1) ∧
        early.execute (fun s => s.1) Registry.rationed.recorded (0, []) =
          (.ok trace, 1, [⟨"count", .empty⟩]) ∧
        trace.Tells early [.ok (.number (.integer 1)),
          .error (.unresolvedReference "total" "count" 1)] := by
  have hrationed : ∀ stage ∈ rationed.stages, Registry.rationed.has stage.type = true := by
    decide
  have hearly : ∀ stage ∈ early.stages, Registry.rationed.has stage.type = true := by
    decide
  refine ⟨hrationed, hearly, ?_, ?_⟩
  · obtain ⟨trace, calls, outcomes, final, hplain, hrecorded, htells, hruns⟩ :=
      execute_historyRun rationed .rationed id 0 hrationed
    have hrun : HistoryRun .rationed [] 0 rationed.stages _ _ _ :=
      .continued (.succeeded rfl rfl rfl)
        (.continued (.succeeded rfl rfl rfl) (.stopped (.failed rfl rfl rfl)))
    obtain ⟨rfl, rfl, rfl⟩ := (hruns _ _ _).1 hrun
    exact ⟨trace, hplain, hrecorded, htells⟩
  · obtain ⟨trace, calls, outcomes, final, hplain, hrecorded, htells, hruns⟩ :=
      execute_historyRun early .rationed id 0 hearly
    have hrun : HistoryRun .rationed [] 0 early.stages _ _ _ :=
      .continued (.succeeded rfl rfl rfl) (.stopped (.unresolved rfl))
    obtain ⟨rfl, rfl, rfl⟩ := (hruns _ _ _).1 hrun
    exact ⟨trace, hplain, hrecorded, htells⟩

end Stageflow
