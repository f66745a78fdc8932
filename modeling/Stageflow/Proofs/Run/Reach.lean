import Stageflow.Proofs.Run.Outcome

namespace Stageflow

variable {σ : Type}

/-- The failures that a run can record of a stage: its placeholders do not resolve, or its handler
    fails. -/
inductive Failure.OfStage (type : String) (index : Nat) : Failure → Prop where
  | unresolved (reference : String) :
      OfStage type index (.unresolvedReference reference type index)
  | handler (error : HandlerError) : OfStage type index (.handler type index error)

namespace Failure.OfStage

variable {type : String} {index : Nat} {failure : Failure}

theorem kind (h : failure.OfStage type index) :
    failure.kind = .handler ∨ failure.kind = .unresolvedReference := by
  cases h with
  | unresolved => exact .inr rfl
  | handler => exact .inl rfl

theorem stageIndex (h : failure.OfStage type index) : failure.stageIndex = some index := by
  cases h <;> rfl

/-- What a trace keeps of the failure of a stage loses only the stage type, which its entry has. -/
theorem toFailure_ofFailure (h : failure.OfStage type index) (place : Nat) :
    (StageError.ofFailure failure place).toFailure type = failure := by
  cases h <;> rfl

end Failure.OfStage

/-- A stage of a registered type fails only in the two ways of a stage: its handler is found. -/
theorem Pipeline.ofStage_of_runStage {registry : Registry σ} {index : Nat} {stage : Stage}
    {outputs : Outputs} {failure : Failure} {s after : σ}
    (hregistered : registry.has stage.type = true)
    (hrun : runStage registry index stage outputs s = (.error failure, after)) :
    failure.OfStage stage.type index := by
  obtain ⟨calls, outcome, final, hattempt⟩ :=
    Attempt.exists_of_has hregistered outputs.get? index s
  have hplain := (hattempt.runStage_eq hregistered []).1
  rw [hrun, Prod.mk.injEq] at hplain
  obtain ⟨rfl, -⟩ := hplain
  cases hattempt with
  | unresolved => exact .unresolved _
  | failed => exact .handler _

/-- How far the runner gets: every stage in front of the given number has succeeded, and together
    they have left the outputs and the state. -/
inductive Pipeline.Reaches (registry : Registry σ) (stages : List Stage) (s : σ) :
    Nat → Outputs → σ → Prop where
  | start : Reaches registry stages s 0 .empty s
  | next {index : Nat} {outputs : Outputs} {before after : σ} {stage : Stage} {output : Json}
      (hreach : Reaches registry stages s index outputs before)
      (hstage : stages[index]? = some stage)
      (hrun : runStage registry index stage outputs before = (.ok output, after)) :
      Reaches registry stages s (index + 1) (outputs.insert stage.type output) after

/-- The runner gets to the stage with the given number, whose run returns the failure. -/
def Pipeline.FailsAt (pipeline : Pipeline) (registry : Registry σ) (s : σ) (index : Nat)
    (failure : Failure) (final : σ) : Prop :=
  ∃ outputs before stage, Reaches registry pipeline.stages s index outputs before ∧
    pipeline.stages[index]? = some stage ∧
    runStage registry index stage outputs before = (.error failure, final)

namespace Pipeline

variable {registry : Registry σ} {stages : List Stage} {s : σ}

theorem Reaches.unique {index : Nat} {outputs outputs' : Outputs} {after after' : σ}
    (h : Reaches registry stages s index outputs after)
    (h' : Reaches registry stages s index outputs' after') :
    outputs' = outputs ∧ after' = after := by
  induction h generalizing outputs' after' with
  | start =>
    cases h'
    exact ⟨rfl, rfl⟩
  | next _ hstage hrun ih =>
    cases h' with
    | next hreach' hstage' hrun' =>
      obtain ⟨rfl, rfl⟩ := ih hreach'
      obtain rfl := Option.some.inj (hstage.symm.trans hstage')
      rw [hrun, Prod.mk.injEq, Except.ok.injEq] at hrun'
      obtain ⟨rfl, rfl⟩ := hrun'
      exact ⟨rfl, rfl⟩

/-- The runner gets to a stage only through successes of all stages in front of it. -/
theorem Reaches.exists_success {index earlier : Nat} {outputs : Outputs} {after : σ}
    (h : Reaches registry stages s index outputs after) (hearlier : earlier < index) :
    ∃ outputs' before stage output final, Reaches registry stages s earlier outputs' before ∧
      stages[earlier]? = some stage ∧
      runStage registry earlier stage outputs' before = (.ok output, final) := by
  induction h with
  | start => cases hearlier
  | next hreach hstage hrun ih =>
    rcases Nat.lt_succ_iff_lt_or_eq.1 hearlier with hlt | rfl
    · exact ih hlt
    · exact ⟨_, _, _, _, _, hreach, hstage, hrun⟩

/-- No run gets past a stage that fails. -/
private theorem FailsAt.le {pipeline : Pipeline} {index earlier : Nat} {outputs : Outputs}
    {failure : Failure} {final after : σ} (h : pipeline.FailsAt registry s earlier failure final)
    (hreach : Reaches registry pipeline.stages s index outputs after) : index ≤ earlier := by
  by_cases hle : index ≤ earlier
  · exact hle
  · obtain ⟨outputs, before, stage, hbefore, hstage, hfailed⟩ := h
    obtain ⟨outputs', before', stage', output, final', hbefore', hstage', hsucceeded⟩ :=
      hreach.exists_success (Nat.lt_of_not_le hle)
    obtain ⟨rfl, rfl⟩ := hbefore.unique hbefore'
    obtain rfl := Option.some.inj (hstage.symm.trans hstage')
    rw [hsucceeded] at hfailed
    cases hfailed

/-- A run fails at one stage at most, and with one failure. -/
theorem FailsAt.unique {pipeline : Pipeline} {index index' : Nat} {failure failure' : Failure}
    {final final' : σ} (h : pipeline.FailsAt registry s index failure final)
    (h' : pipeline.FailsAt registry s index' failure' final') :
    index' = index ∧ failure' = failure ∧ final' = final := by
  obtain ⟨outputs, before, stage, hreach, hstage, hrun⟩ := id h
  obtain ⟨outputs', before', stage', hreach', hstage', hrun'⟩ := id h'
  obtain rfl : index' = index := Nat.le_antisymm (h.le hreach') (h'.le hreach)
  obtain ⟨rfl, rfl⟩ := hreach.unique hreach'
  obtain rfl := Option.some.inj (hstage.symm.trans hstage')
  rw [hrun, Prod.mk.injEq, Except.error.injEq] at hrun'
  obtain ⟨rfl, rfl⟩ := hrun'
  exact ⟨rfl, rfl, rfl⟩

theorem FailsAt.exists_ofStage {pipeline : Pipeline} {index : Nat} {failure : Failure} {final : σ}
    (h : pipeline.FailsAt registry s index failure final)
    (hregistered : ∀ stage ∈ pipeline.stages, registry.has stage.type = true) :
    ∃ stage, pipeline.stages[index]? = some stage ∧ failure.OfStage stage.type index := by
  obtain ⟨outputs, before, stage, -, hstage, hrun⟩ := h
  have hhas := hregistered stage (List.mem_of_getElem? hstage)
  exact ⟨stage, hstage, ofStage_of_runStage hhas hrun⟩

/-- A run that gets to the end of its pipeline fails nowhere. -/
theorem Reaches.not_failsAt {pipeline : Pipeline} {outputs : Outputs} {after : σ}
    (hreach : Reaches registry pipeline.stages s pipeline.stages.length outputs after)
    (index : Nat) (failure : Failure) (final : σ) :
    ¬ pipeline.FailsAt registry s index failure final := by
  intro hfails
  have hle := hfails.le hreach
  obtain ⟨-, -, stage, -, hstage, -⟩ := hfails
  have hlt := (List.getElem?_eq_some_iff.1 hstage).1
  omega

end Pipeline

/-- A run gets to its end, or stops at a stage that fails. The stages may be the last ones of a
    pipeline, the first of which the runner has reached with outputs that record the history. -/
theorem HistoryRun.ends {registry : Registry σ} {pipeline : Pipeline} {start s final : σ}
    {history : History} {stages : List Stage} {calls : List Call}
    {outcomes : List (Except Failure Json)} {recorded : Outputs}
    (hrun : HistoryRun registry history s stages calls outcomes final)
    (hregistered : ∀ stage ∈ stages, registry.has stage.type = true)
    (hstages : pipeline.stages.drop history.length = stages)
    (hrecorded : recorded.Records history)
    (hreach : Pipeline.Reaches registry pipeline.stages start history.length recorded s) :
    (∃ outputs, outcomes = completeOutcomes outputs ∧ outputs.length = stages.length ∧
        ∃ recorded, Pipeline.Reaches registry pipeline.stages start
          (history.length + stages.length) recorded final) ∨
      ∃ outputs failure, outcomes = stoppedOutcomes outputs failure ∧
        pipeline.FailsAt registry start (history.length + outputs.length) failure final := by
  induction hrun generalizing recorded with
  | finished => exact .inl ⟨[], rfl, rfl, recorded, hreach⟩
  | @stopped history s after stage stages calls failure hattempt =>
    rw [← hrecorded] at hattempt
    obtain ⟨hplain, -⟩ := hattempt.runStage_eq (hregistered stage List.mem_cons_self) []
    have hstage : pipeline.stages[history.length]? = some stage := by
      rw [← List.head?_drop, hstages, List.head?_cons]
    exact .inr ⟨[], failure, rfl, recorded, s, stage, hreach, hstage, hplain⟩
  | @continued history s after final stage stages calls later output outcomes hattempt hrun ih =>
    rw [List.forall_mem_cons] at hregistered
    rw [← hrecorded] at hattempt
    obtain ⟨hplain, -⟩ := hattempt.runStage_eq hregistered.1 []
    have hstage : pipeline.stages[history.length]? = some stage := by
      rw [← List.head?_drop, hstages, List.head?_cons]
    have hlength : (history ++ [(stage.type, output)]).length = history.length + 1 := by
      rw [List.length_append, List.length_singleton]
    have hrest : pipeline.stages.drop (history ++ [(stage.type, output)]).length = stages := by
      rw [hlength, ← List.drop_drop, hstages, List.drop_one, List.tail_cons]
    have hends := ih hregistered.2 hrest (hrecorded.insert stage.type output)
      (hlength ▸ hreach.next hstage hplain)
    rw [hlength] at hends
    rcases hends with ⟨outputs, rfl, houtputs, hend⟩ | ⟨outputs, failure, rfl, hfails⟩
    · refine .inl ⟨output :: outputs, rfl, congrArg (· + 1) houtputs, ?_⟩
      rwa [List.length_cons, Nat.add_comm stages.length, ← Nat.add_assoc]
    · refine .inr ⟨output :: outputs, failure, rfl, ?_⟩
      rwa [List.length_cons, Nat.add_comm outputs.length, ← Nat.add_assoc]

end Stageflow
