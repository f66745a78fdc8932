import Stageflow.Proofs.Run.Outcome

namespace Stageflow

variable {σ : Type}

/-- A stage that completed, with its output. -/
def StageResult.completed? (result : StageResult) : Option (String × Json) :=
  result.output.map fun output => (result.type, output)

/-- The stages of a trace that completed, in order, with their outputs. -/
def Trace.history (trace : Trace) : History :=
  trace.stages.filterMap StageResult.completed?

/-- Records the outputs of stages that complete one after the other. -/
def Outputs.insertAll (outputs : Outputs) (history : History) : Outputs :=
  history.foldl (fun outputs entry => outputs.insert entry.1 entry.2) outputs

theorem Outputs.Records.insertAll {outputs : Outputs} {before : History}
    (h : outputs.Records before) (history : History) :
    Outputs.Records (outputs.insertAll history) (before ++ history) := by
  induction history generalizing outputs before with
  | nil =>
    rw [List.append_nil]
    exact h
  | cons entry history ih =>
    have hrest := ih (h.insert entry.1 entry.2)
    rw [List.append_assoc, List.singleton_append] at hrest
    exact hrest

namespace Pipeline

variable {clock : σ → Nat} {registry : Registry σ} {index : Nat} {outputs : Outputs} {s after : σ}
  {before : List Stage} {results : List StageResult}

/-- Stages that all succeed leave an entry with an output for each of them. -/
theorem types_of_runStages
    (h : runStages clock registry index outputs s before = (results, true, after)) :
    (results.filterMap StageResult.completed?).map (·.1) = before.map (·.type) := by
  induction before generalizing index outputs s results with
  | nil =>
    cases h
    rfl
  | cons stage before ih =>
    rcases runStages_cons_cases h with
      ⟨failure, -, -, hfailed⟩ | ⟨output, middle, rest, -, rfl, hrest⟩
    · cases hfailed
    · rw [List.filterMap_cons_some (by rfl), List.map_cons, ih hrest, List.map_cons]

/-- Stages behind one that fails change nothing. -/
theorem runStages_append_of_failed
    (h : runStages clock registry index outputs s before = (results, false, after))
    (later : List Stage) :
    runStages clock registry index outputs s (before ++ later) = (results, false, after) := by
  induction before generalizing index outputs s results with
  | nil => cases h
  | cons stage before ih =>
    rcases runStages_cons_cases h with
      ⟨failure, hrun, -, -⟩ | ⟨output, middle, rest, hrun, rfl, hrest⟩
    · rw [← h]
      simp only [List.cons_append, runStages, hrun]
    · simp only [List.cons_append, runStages, hrun, ih hrest]

/-- Stages behind others that succeed run from where these end, with their outputs recorded. -/
theorem runStages_append_of_succeeded {later : List Stage} {results' : List StageResult}
    {succeeded : Bool} {final : σ}
    (h : runStages clock registry index outputs s before = (results, true, after))
    (hlater : runStages clock registry (index + before.length)
      (outputs.insertAll (results.filterMap StageResult.completed?)) after later =
        (results', succeeded, final)) :
    runStages clock registry index outputs s (before ++ later) =
      (results ++ results', succeeded, final) := by
  induction before generalizing index outputs s results with
  | nil =>
    cases h
    exact hlater
  | cons stage before ih =>
    rcases runStages_cons_cases h with
      ⟨failure, -, -, hfailed⟩ | ⟨output, middle, rest, hrun, rfl, hrest⟩
    · cases hfailed
    · rw [List.length_cons, Nat.add_comm before.length, ← Nat.add_assoc,
        List.filterMap_cons_some (by rfl)] at hlater
      simp only [List.cons_append, runStages, hrun, ih hrest hlater]

end Pipeline

/-- Stages behind a pipeline never change what its own stages do. If the pipeline fails, they add
    nothing at all. If it succeeds, its entries and calls come first, and the added stages run from
    the state in which it ends, with its outputs as their history. Entries agree together with
    their durations, since clocks are read off the state. -/
theorem Pipeline.execute_append (name longer : String) (before later : List Stage)
    (registry : Registry σ)
    (hregistered : ∀ stage ∈ before ++ later, registry.has stage.type = true)
    (clock : σ → Nat) (s : σ) :
    ∃ trace calls final,
      execute ⟨name, before⟩ clock registry s = (.ok trace, final) ∧
      execute ⟨name, before⟩ (fun s => clock s.1) registry.recorded (s, []) =
        (.ok trace, final, calls) ∧
      (trace.succeeded = true →
        trace.history.map (·.1) = before.map (·.type) ∧
        ∃ trace' results calls' outcomes final',
          execute ⟨longer, before ++ later⟩ clock registry s = (.ok trace', final') ∧
          execute ⟨longer, before ++ later⟩ (fun s => clock s.1) registry.recorded (s, []) =
            (.ok trace', final', calls ++ calls') ∧
          trace'.stages = trace.stages ++ results ∧
          HistoryRun registry trace.history final later calls' outcomes final' ∧
          results.map StageResult.untimed =
            StageResult.ofOutcomes before.length later outcomes ∧
          trace'.succeeded = outcomes.all (·.isOk)) ∧
      (trace.succeeded = false →
        execute ⟨longer, before ++ later⟩ clock registry s =
          (.ok { trace with pipeline := longer }, final) ∧
        execute ⟨longer, before ++ later⟩ (fun s => clock s.1) registry.recorded (s, []) =
          (.ok { trace with pipeline := longer }, final, calls)) := by
  have hrecorded : ∀ stage ∈ before ++ later, registry.recorded.has stage.type = true := by
    simpa only [Registry.has_recorded] using hregistered
  obtain ⟨hbefore, hlater⟩ := List.forall_mem_append.1 hregistered
  obtain ⟨hbefore', -⟩ := List.forall_mem_append.1 hrecorded
  obtain ⟨calls, outcomes, final, hrun⟩ := HistoryRun.exists_of_registered [] s hbefore
  obtain ⟨results, hplain, hlogged, -⟩ :=
    hrun.runStages_eq hbefore Outputs.records_empty clock []
  rw [List.length_nil] at hplain hlogged
  rw [List.nil_append] at hlogged
  generalize outcomes.all (·.isOk) = succeeded at hplain hlogged
  refine ⟨⟨name, results, succeeded, clock final - clock s⟩, calls, final,
    execute_of_runStages name hbefore hplain, execute_of_runStages name hbefore' hlogged, ?_, ?_⟩
  · rintro rfl
    have htypes := types_of_runStages hplain
    have hlength := congrArg List.length htypes
    rw [List.length_map, List.length_map] at hlength
    -- The map at the end of the first stages records what their trace says they returned.
    have houtputs := Outputs.records_empty.insertAll (results.filterMap StageResult.completed?)
    rw [List.nil_append] at houtputs
    obtain ⟨calls', outcomes', final', hrun'⟩ := HistoryRun.exists_of_registered
      (results.filterMap StageResult.completed?) final hlater
    obtain ⟨results', hplain', hlogged', huntimed⟩ :=
      hrun'.runStages_eq hlater houtputs clock calls
    rw [hlength] at hplain' hlogged' huntimed
    rw [← Nat.zero_add before.length] at hplain' hlogged'
    exact ⟨htypes, _, results', calls', outcomes', final',
      execute_of_runStages longer hregistered (runStages_append_of_succeeded hplain hplain'),
      execute_of_runStages longer hrecorded (runStages_append_of_succeeded hlogged hlogged'),
      rfl, hrun', huntimed, rfl⟩
  · rintro rfl
    exact ⟨execute_of_runStages longer hregistered (runStages_append_of_failed hplain later),
      execute_of_runStages longer hrecorded (runStages_append_of_failed hlogged later)⟩

/-- A stage added behind two counts of calls mentions the latter of them. -/
theorem Pipeline.execute_append_counted :
    (∀ stage ∈ counted.stages.take 2 ++ counted.stages.drop 2,
      Registry.counting.has stage.type = true) ∧
      ∃ outcomes, HistoryRun Registry.counting
        [("count", .number (.integer 1)), ("count", .number (.integer 2))] 2
        (counted.stages.drop 2) [⟨"count", .ofList [("before", .text "2")]⟩] outcomes 3 := by
  have hregistered : ∀ stage ∈ counted.stages.take 2 ++ counted.stages.drop 2,
      Registry.counting.has stage.type = true := by
    decide
  obtain ⟨trace, calls, final, -, hlogged, hsucceeded, -⟩ :=
    execute_append "short" "long" _ _ Registry.counting hregistered id 0
  have hshort : execute ⟨"short", counted.stages.take 2⟩ (fun s => id s.1)
      Registry.counting.recorded (0, []) =
        (.ok ⟨"short", [⟨0, "count", some (.number (.integer 1)), none, 1⟩,
          ⟨1, "count", some (.number (.integer 2)), none, 1⟩], true, 2⟩, 2,
          [⟨"count", .empty⟩, ⟨"count", .ofList [("before", .text "1")]⟩]) := by
    rfl
  rw [hshort, Prod.mk.injEq, Prod.mk.injEq, Except.ok.injEq] at hlogged
  obtain ⟨rfl, rfl, rfl⟩ := hlogged
  obtain ⟨-, trace', results, calls', outcomes, final', -, hlogged', -, hrun, -, -⟩ :=
    hsucceeded rfl
  have hend : (3, [⟨"count", .ofList [("before", .text "2")]⟩]) = (final', calls') := by
    refine Eq.trans ?_ (congrArg (fun result => (result.2.1, result.2.2.drop 2)) hlogged')
    decide
  obtain ⟨rfl, rfl⟩ := Prod.mk.inj hend
  exact ⟨hregistered, outcomes, hrun⟩

end Stageflow
