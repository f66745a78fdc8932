import Stageflow.Check
import Stageflow.Proofs.Run.Regular

namespace Stageflow

variable {σ : Type}

theorem Registry.types_recorded (registry : Registry σ) :
    registry.recorded.types = registry.types := by
  simp only [Registry.types, Registry.recorded, Table.names, List.map_map, Function.comp_def]

/-- The failure to find a handler: it names the stage and all types that have one. -/
def Registry.unknownStage (registry : Registry σ) (type : String) (index : Nat) : Failure :=
  .unknownStage type index (", ".intercalate registry.types)

theorem Registry.unknownStage_recorded (registry : Registry σ) (type : String) (index : Nat) :
    registry.recorded.unknownStage type index = registry.unknownStage type index := by
  rw [unknownStage, types_recorded, unknownStage]

theorem Registry.resolve_of_not_has {registry : Registry σ} {type : String}
    (h : registry.has type = false) (index : Nat) :
    registry.resolve type index = .error (registry.unknownStage type index) := by
  have hget : registry.get? type = none :=
    Option.isNone_iff_eq_none.1 (Option.isSome_eq_false_iff.1 h)
  simp only [Registry.resolve, hget, Registry.unknownStage]

/-- A check reports all stages without a handler, in the order of the pipeline. -/
theorem unknown_checkStages (registry : Registry σ) (index : Nat) (earlier : List String)
    (stages : List Stage) :
    (checkStages registry index earlier stages).unknown =
      ((stages.zipIdx index).filter fun place => !registry.has place.1.type).map
        fun place => ⟨place.2, place.1.type⟩ := by
  induction stages generalizing index earlier with
  | nil => rfl
  | cons stage stages ih =>
    rw [checkStages, ih, List.zipIdx_cons]
    cases hhas : registry.has stage.type <;> simp [hhas]

namespace Pipeline

variable {pipeline : Pipeline} {registry : Registry σ}

theorem errors_check (pipeline : Pipeline) (registry : Registry σ) :
    (pipeline.check registry).errors =
      (pipeline.stages.zipIdx.filter fun place => !registry.has place.1.type).map
        fun place => UnknownStage.message ⟨place.2, place.1.type⟩ := by
  rw [Findings.errors, check, unknown_checkStages, List.map_map]
  rfl

theorem errors_check_eq_nil_iff :
    (pipeline.check registry).errors = [] ↔
      ∀ stage ∈ pipeline.stages, registry.has stage.type = true := by
  rw [errors_check, List.map_eq_nil_iff, List.filter_eq_nil_iff]
  constructor
  · intro h stage hstage
    obtain ⟨index, hindex⟩ := List.mem_iff_getElem?.1 hstage
    have hplace := h (stage, index) (List.mem_zipIdx_iff_getElem?.2 hindex)
    simpa only [Bool.not_eq_true', Bool.not_eq_false] using hplace
  · intro h place hplace
    rw [h place.1 (List.mem_of_getElem? (List.mem_zipIdx_iff_getElem?.1 hplace))]
    decide

/-- The stage with the given number is the first of a pipeline whose type has no handler. -/
structure FirstUnknown (pipeline : Pipeline) (registry : Registry σ) (index : Nat)
    (stage : Stage) : Prop where
  getElem? : pipeline.stages[index]? = some stage
  not_has : registry.has stage.type = false
  registered : ∀ earlier ∈ pipeline.stages.take index, registry.has earlier.type = true

theorem registered_or_firstUnknown (pipeline : Pipeline) (registry : Registry σ) :
    (∀ stage ∈ pipeline.stages, registry.has stage.type = true) ∨
      ∃ index stage, pipeline.FirstUnknown registry index stage := by
  cases hfind : pipeline.stages.find? fun stage => !registry.has stage.type with
  | none =>
    left
    simpa only [List.find?_eq_none, Bool.not_eq_true', Bool.not_eq_false] using hfind
  | some stage =>
    right
    obtain ⟨hunknown, before, after, hstages, hbefore⟩ := List.find?_eq_some_iff_append.1 hfind
    refine ⟨before.length, stage, ?_, by simpa only [Bool.not_eq_true'] using hunknown, ?_⟩
    · rw [hstages, List.getElem?_append_right (Nat.le_refl _), Nat.sub_self,
        List.getElem?_cons_zero]
    · rw [hstages, List.take_left]
      simpa only [Bool.not_not] using hbefore

namespace FirstUnknown

variable {index : Nat} {stage : Stage}

/-- Noting calls gives no stage type a handler and takes none away. -/
theorem recorded (h : pipeline.FirstUnknown registry index stage) :
    pipeline.FirstUnknown registry.recorded index stage := by
  refine ⟨h.getElem?, ?_, ?_⟩
  · rw [Registry.has_recorded, h.not_has]
  · intro earlier hearlier
    rw [Registry.has_recorded, h.registered earlier hearlier]

theorem preflight_eq (h : pipeline.FirstUnknown registry index stage) :
    pipeline.preflight registry = .error (registry.unknownStage stage.type index) := by
  obtain ⟨hlt, hget⟩ := List.getElem?_eq_some_iff.1 h.getElem?
  have hsplit : pipeline.stages =
      pipeline.stages.take index ++ stage :: pipeline.stages.drop (index + 1) := by
    rw [← hget, ← List.drop_eq_getElem_cons, List.take_append_drop]
  have hlength : (pipeline.stages.take index).length = index :=
    List.length_take_of_le (Nat.le_of_lt hlt)
  rw [preflight, hsplit, preflightFrom_append 0 h.registered, hlength, Nat.zero_add]
  simp only [preflightFrom, Registry.resolve_of_not_has h.not_has]

/-- Nothing runs when a stage has no handler, so that the state remains as it is. -/
theorem execute_eq (h : pipeline.FirstUnknown registry index stage) (clock : σ → Nat) (s : σ) :
    pipeline.execute clock registry s = (.error (registry.unknownStage stage.type index), s) := by
  simp only [execute, h.preflight_eq]

end FirstUnknown

theorem preflight_eq_ok_iff :
    pipeline.preflight registry = .ok () ↔
      ∀ stage ∈ pipeline.stages, registry.has stage.type = true := by
  refine ⟨?_, preflight_of_registered⟩
  intro hpreflight
  rcases registered_or_firstUnknown pipeline registry with hregistered | ⟨index, stage, hfirst⟩
  · exact hregistered
  · rw [hfirst.preflight_eq] at hpreflight
    cases hpreflight

theorem registered_of_execute {clock : σ → Nat} {s final : σ} {trace : Trace}
    (hexecute : pipeline.execute clock registry s = (.ok trace, final)) :
    ∀ stage ∈ pipeline.stages, registry.has stage.type = true := by
  rcases registered_or_firstUnknown pipeline registry with hregistered | ⟨index, stage, hfirst⟩
  · exact hregistered
  · rw [hfirst.execute_eq] at hexecute
    cases hexecute

/-- A trace comes from the one run of the stages, and from nothing else. -/
theorem exists_historyRun_of_execute {clock : σ → Nat} {s final : σ} {trace : Trace}
    (hexecute : pipeline.execute clock registry s = (.ok trace, final)) :
    ∃ calls outcomes, HistoryRun registry [] s pipeline.stages calls outcomes final ∧
      trace.untimed = .ofOutcomes pipeline outcomes := by
  have hregistered := registered_of_execute hexecute
  obtain ⟨calls, outcomes, after, hrun⟩ := HistoryRun.exists_of_registered [] s hregistered
  obtain ⟨trace', hplain, -, huntimed⟩ := hrun.execute_eq hregistered clock
  rw [hexecute, Prod.mk.injEq, Except.ok.injEq] at hplain
  obtain ⟨rfl, rfl⟩ := hplain
  exact ⟨calls, outcomes, hrun, huntimed⟩

theorem regular_of_execute {clock : σ → Nat} {s final : σ} {trace : Trace}
    (hexecute : pipeline.execute clock registry s = (.ok trace, final)) :
    trace.Regular pipeline := by
  obtain ⟨calls, outcomes, hrun, huntimed⟩ := exists_historyRun_of_execute hexecute
  exact hrun.regular (registered_of_execute hexecute) huntimed

end Pipeline

/-- The check, the preflight and the execution of a pipeline find the same stages without a handler.
    The check reports each of them; the other two fail at the first one, before any handler is
    called and any state is changed. Where there is none, no later look-up fails either, and no
    trace ever tells of a stage without a handler. -/
theorem Pipeline.preflight_exact (pipeline : Pipeline) (registry : Registry σ) (clock : σ → Nat)
    (s : σ) :
    ((pipeline.check registry).errors = [] ↔ pipeline.preflight registry = .ok ()) ∧
      (pipeline.preflight registry = .ok () ↔
        ∃ trace final, pipeline.execute clock registry s = (.ok trace, final)) ∧
      (pipeline.check registry).errors =
        (pipeline.stages.zipIdx.filter fun place => !registry.has place.1.type).map
          (fun place => UnknownStage.message ⟨place.2, place.1.type⟩) ∧
      ((pipeline.check registry).errors ≠ [] →
        ∃ index stage, pipeline.FirstUnknown registry index stage ∧
          pipeline.preflight registry = .error (registry.unknownStage stage.type index) ∧
          pipeline.execute clock registry s =
            (.error (registry.unknownStage stage.type index), s) ∧
          pipeline.execute (fun s => clock s.1) registry.recorded (s, []) =
            (.error (registry.unknownStage stage.type index), s, [])) ∧
      ((∀ type, type ∈ registry.types ↔ registry.has type = true) ∧
        registry.types.Pairwise (· < ·)) ∧
      ((pipeline.check registry).errors = [] →
        (∀ index stage, pipeline.stages[index]? = some stage →
          ∃ handler, registry.resolve stage.type index = .ok handler) ∧
        ∀ trace final, pipeline.execute clock registry s = (.ok trace, final) →
          ∀ result ∈ trace.stages, ∀ error, result.error = some error →
            error.kind ≠ .unknownStage) := by
  refine ⟨errors_check_eq_nil_iff.trans preflight_eq_ok_iff.symm, ⟨?_, ?_⟩,
    errors_check pipeline registry, ?_, ⟨fun _ => Registry.mem_types_iff, registry.pairwise_types⟩,
    ?_⟩
  · intro hpreflight
    have hregistered := preflight_eq_ok_iff.1 hpreflight
    obtain ⟨calls, outcomes, final, hrun⟩ := HistoryRun.exists_of_registered [] s hregistered
    obtain ⟨trace, hplain, -⟩ := hrun.execute_eq hregistered clock
    exact ⟨trace, final, hplain⟩
  · rintro ⟨trace, final, hplain⟩
    exact preflight_eq_ok_iff.2 (registered_of_execute hplain)
  · intro herrors
    rcases registered_or_firstUnknown pipeline registry with hregistered | ⟨index, stage, hfirst⟩
    · exact absurd (errors_check_eq_nil_iff.2 hregistered) herrors
    · refine ⟨index, stage, hfirst, hfirst.preflight_eq, hfirst.execute_eq clock s, ?_⟩
      rw [hfirst.recorded.execute_eq, Registry.unknownStage_recorded]
  · intro herrors
    have hregistered := errors_check_eq_nil_iff.1 herrors
    constructor
    · intro index stage hstage
      obtain ⟨handler, hget⟩ :=
        Registry.has_iff_get?.1 (hregistered stage (List.mem_of_getElem? hstage))
      exact ⟨handler, Registry.resolve_of_get? hget index⟩
    · intro trace final hplain result hresult error herror hkind
      have hkinds := (regular_of_execute hplain).kind_of_error hresult herror
      rw [hkind] at hkinds
      rcases hkinds with h | h <;> cases h

/-- Two stages without a handler behind one that counts its calls. -/
def Pipeline.unprepared : Pipeline :=
  ⟨"unprepared", [⟨"count", .empty⟩, ⟨"total", .empty⟩, ⟨"mean", .empty⟩]⟩

/-- The first stage is not run though it has a handler, and both others are reported. Of a pipeline
    in which every stage has one, all are found again. -/
theorem Pipeline.preflight_exact_unprepared :
    (unprepared.check Registry.counting).errors =
        ["Stage 1 ('total'): no handler registered for this stage type",
          "Stage 2 ('mean'): no handler registered for this stage type"] ∧
      unprepared.preflight Registry.counting = .error (.unknownStage "total" 1 "count") ∧
      unprepared.execute (fun s => s.1) Registry.counting.recorded (0, []) =
        (.error (.unknownStage "total" 1 "count"), 0, []) ∧
      (counted.check Registry.counting).errors = [] ∧
      ∀ index stage, counted.stages[index]? = some stage →
        ∃ handler, Registry.counting.resolve stage.type index = .ok handler := by
  have herrors : (unprepared.check Registry.counting).errors =
      ["Stage 1 ('total'): no handler registered for this stage type",
        "Stage 2 ('mean'): no handler registered for this stage type"] := by
    decide
  have hfound : (counted.check Registry.counting).errors = [] := by
    decide
  have hpreflight : unprepared.preflight Registry.counting =
      .error (.unknownStage "total" 1 "count") := by
    rfl
  obtain ⟨-, -, -, hfirst, -, -⟩ := preflight_exact unprepared .counting id 0
  obtain ⟨-, -, -, -, -, hresolves⟩ := preflight_exact counted .counting id 0
  obtain ⟨index, stage, -, hfails, -, hrecorded⟩ :=
    hfirst (by rw [herrors]; exact List.cons_ne_nil _ _)
  rw [Except.error.inj (hfails.symm.trans hpreflight)] at hrecorded
  exact ⟨herrors, hpreflight, hrecorded, hfound, (hresolves hfound).1⟩

end Stageflow
