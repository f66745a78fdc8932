import Mathlib.Data.List.Basic
import Mathlib.Data.List.Find
import Stageflow.Proofs.Run.Outcome

namespace Stageflow

variable {σ α β : Type}

namespace Placeholder

variable {output? output?' : String → Option Json}

/-- A text is written the same if the outputs agree on the types that it names. -/
theorem substitute_congr {text : String}
    (h : ∀ type ∈ references text, output? type = output?' type) :
    substitute output? text = substitute output?' text := by
  rw [substitute, substitute]
  refine congrArg String.ofList (List.flatMap_congr ?_)
  intro piece hpiece
  cases piece with
  | literal c => rfl
  | reference name =>
    have hname : String.ofList name ∈ references text := by
      rw [references_eq_filterMap]
      exact List.mem_filterMap.2 ⟨_, hpiece, rfl⟩
    rw [Piece.written, Piece.written, h _ hname]

theorem missing?_congr {options : Options}
    (h : ∀ type ∈ optionReferences options, output? type = output?' type) :
    missing? output? options = missing? output?' options := by
  rw [missing?, missing?]
  apply List.find?_congr
  intro type htype
  rw [h type htype]

end Placeholder

/-- Options are resolved to the same if the outputs agree on the types that they name. -/
theorem Options.substitute_congr {output? output?' : String → Option Json} {options : Options}
    (h : ∀ type ∈ Placeholder.optionReferences options, output? type = output?' type) :
    options.substitute output? = options.substitute output?' := by
  rw [substitute, substitute, Options.mk.injEq]
  apply List.map_congr_left
  rintro ⟨name, value⟩ hentry
  cases value with
  | flag b => rfl
  | text text =>
    have htext : Placeholder.substitute output? text = Placeholder.substitute output?' text := by
      apply Placeholder.substitute_congr
      intro type htype
      apply h
      exact List.mem_flatMap.2 ⟨text, List.mem_filterMap.2 ⟨_, hentry, rfl⟩, htype⟩
    rw [OptionValue.substitute, OptionValue.substitute, htext]

/-- Outputs that agree but for those of one stage type. -/
def AgreeBut (type : String) (output? output?' : String → Option Json) : Prop :=
  ∀ other, other ≠ type → output? other = output?' other

theorem AgreeBut.append {type : String} {history history' : History}
    (h : AgreeBut type history.latest? history'.latest?) {other : String} {output output' : Json}
    (houtput : output = output' ∨ other = type) :
    AgreeBut type (History.latest? (history ++ [(other, output)]))
      (History.latest? (history' ++ [(other, output')])) := by
  intro another hne
  rw [History.latest?_append, History.latest?_append]
  by_cases hother : other = another
  · rcases houtput with rfl | rfl
    · rw [if_pos hother, if_pos hother]
    · exact absurd hother.symm hne
  · rw [if_neg hother, if_neg hother]
    exact h another hne

namespace Registry

/-- The handlers of a registry, and one more with a memory of its own, which none of the others
    can reach. -/
def withPrivate (others : Registry σ) (type : String) (own : Handler α) : Registry (σ × α) :=
  (others.map (·.within Prod.fst fun inner s => (inner, s.2))).register type
    (own.within Prod.snd fun inner s => (s.1, inner))

theorem get?_withPrivate_self (others : Registry σ) (type : String) (own : Handler α) :
    (others.withPrivate type own).get? type =
      some (own.within Prod.snd fun inner s => (s.1, inner)) := by
  rw [withPrivate, get?_register, if_pos rfl]

theorem get?_withPrivate_of_ne (others : Registry σ) {type other : String} (hne : other ≠ type)
    (own : Handler α) :
    (others.withPrivate type own).get? other =
      (others.get? other).map (·.within Prod.fst fun inner s => (inner, s.2)) := by
  rw [withPrivate, get?_register, if_neg hne, get?_map]

theorem has_withPrivate (others : Registry σ) (type : String) (own : Handler α)
    (own' : Handler β) (other : String) :
    (others.withPrivate type own).has other = (others.withPrivate type own').has other := by
  change ((others.withPrivate type own).get? other).isSome =
    ((others.withPrivate type own').get? other).isSome
  by_cases hne : other = type
  · subst hne
    rw [get?_withPrivate_self, get?_withPrivate_self]
    rfl
  · rw [get?_withPrivate_of_ne others hne, get?_withPrivate_of_ne others hne, Option.isSome_map,
      Option.isSome_map]

end Registry

/-- A stage ends in two runs in the same way, or it is of the given type and both times returns an
    output. -/
def EndsAlike (type : String) (stage : Stage) (outcome outcome' : Except Failure Json) : Prop :=
  outcome' = outcome ∨ stage.type = type ∧ ∃ output output', outcome = .ok output ∧
    outcome' = .ok output'

/-- The stages that are reached are the same in two runs, and each ends alike. -/
inductive OutcomesAlike (type : String) :
    List Stage → List (Except Failure Json) → List (Except Failure Json) → Prop where
  | nil {stages : List Stage} : OutcomesAlike type stages [] []
  | cons {stage : Stage} {stages : List Stage} {outcome outcome' : Except Failure Json}
      {outcomes outcomes' : List (Except Failure Json)}
      (hends : EndsAlike type stage outcome outcome')
      (hrest : OutcomesAlike type stages outcomes outcomes') :
      OutcomesAlike type (stage :: stages) (outcome :: outcomes) (outcome' :: outcomes')

/-- A handler that never fails. -/
def Handler.Succeeds (handler : Handler σ) : Prop :=
  ∀ options s, ∃ output after, handler.invoke options s = (.ok output, after)

section Pair

variable {others : Registry σ} {type : String} {own : Handler α} {own' : Handler β}

/-- A stage that does not mention a type does the same for two handlers of this type: the call that
    it makes, what it does to the state of the others, and its end, unless it is of this type. -/
theorem Attempt.exists_pair (hown : own.Succeeds) (hown' : own'.Succeeds) {stage : Stage}
    (hregistered : (others.withPrivate type own).has stage.type = true)
    (hfree : type ∉ Placeholder.optionReferences stage.options)
    {output? output?' : String → Option Json} (hagree : AgreeBut type output? output?')
    (index : Nat) (x : σ) (a : α) (b : β) :
    ∃ calls outcome outcome' y c d,
      Attempt (others.withPrivate type own) output? index stage (x, a) calls outcome (y, c) ∧
      Attempt (others.withPrivate type own') output?' index stage (x, b) calls outcome' (y, d) ∧
      EndsAlike type stage outcome outcome' := by
  have hreferences : ∀ other ∈ Placeholder.optionReferences stage.options,
      output? other = output?' other := by
    intro other hother
    apply hagree
    rintro rfl
    exact hfree hother
  have hmissing' := Placeholder.missing?_congr hreferences
  have hoptions := Options.substitute_congr hreferences
  cases hmissing : Placeholder.missing? output? stage.options with
  | some reference =>
    rw [hmissing] at hmissing'
    exact ⟨_, _, _, x, a, b, .unresolved hmissing, .unresolved hmissing'.symm, .inl rfl⟩
  | none =>
    rw [hmissing] at hmissing'
    by_cases htype : stage.type = type
    · subst htype
      obtain ⟨output, c, hinvoke⟩ := hown (stage.options.substitute output?) a
      obtain ⟨output', d, hinvoke'⟩ := hown' (stage.options.substitute output?) b
      have hget := others.get?_withPrivate_self stage.type own
      have hget' := others.get?_withPrivate_self stage.type own'
      refine ⟨_, .ok output, .ok output', x, c, d, .succeeded hmissing hget ?_, ?_,
        .inr ⟨rfl, output, output', rfl, rfl⟩⟩
      · rw [Handler.invoke_within, hinvoke]
      · rw [hoptions] at hinvoke' ⊢
        exact .succeeded hmissing'.symm hget' (by rw [Handler.invoke_within, hinvoke'])
    · obtain ⟨handler, hhandler⟩ := Registry.has_iff_get?.1 hregistered
      rw [others.get?_withPrivate_of_ne htype, Option.map_eq_some_iff] at hhandler
      obtain ⟨inner, hinner, -⟩ := hhandler
      have hget := others.get?_withPrivate_of_ne htype own
      have hget' := others.get?_withPrivate_of_ne htype own'
      rw [hinner, Option.map_some] at hget hget'
      cases hinvoke : inner.invoke (stage.options.substitute output?) x with
      | mk reply y =>
        cases reply with
        | ok output =>
          refine ⟨_, .ok output, .ok output, y, a, b, .succeeded hmissing hget ?_, ?_, .inl rfl⟩
          · rw [Handler.invoke_within, hinvoke]
          · rw [hoptions] at hinvoke ⊢
            exact .succeeded hmissing'.symm hget' (by rw [Handler.invoke_within, hinvoke])
        | error error =>
          refine ⟨_, .error (.handler stage.type index error), _, y, a, b,
            .failed hmissing hget ?_, ?_, .inl rfl⟩
          · rw [Handler.invoke_within, hinvoke]
          · rw [hoptions] at hinvoke ⊢
            exact .failed hmissing'.symm hget' (by rw [Handler.invoke_within, hinvoke])

/-- Stages that do not mention a type run alike with two handlers of this type, behind histories
    that agree but for it. -/
theorem HistoryRun.exists_pair (hown : own.Succeeds) (hown' : own'.Succeeds) {stages : List Stage}
    (hregistered : ∀ stage ∈ stages, (others.withPrivate type own).has stage.type = true)
    (hfree : ∀ stage ∈ stages, type ∉ Placeholder.optionReferences stage.options)
    {history history' : History} (hlength : history'.length = history.length)
    (hagree : AgreeBut type history.latest? history'.latest?) (x : σ) (a : α) (b : β) :
    ∃ calls outcomes outcomes' y c d,
      HistoryRun (others.withPrivate type own) history (x, a) stages calls outcomes (y, c) ∧
      HistoryRun (others.withPrivate type own') history' (x, b) stages calls outcomes' (y, d) ∧
      OutcomesAlike type stages outcomes outcomes' := by
  -- Behind a stage of the type the histories differ for good, but never where a stage looks.
  induction stages generalizing history history' x a b with
  | nil => exact ⟨_, _, _, _, _, _, .finished, .finished, .nil⟩
  | cons stage stages ih =>
    rw [List.forall_mem_cons] at hregistered hfree
    obtain ⟨calls, outcome, outcome', y, c, d, hattempt, hattempt', hends⟩ :=
      Attempt.exists_pair hown hown' hregistered.1 hfree.1 hagree history.length x a b
    rw [← hlength] at hattempt'
    rcases outcome with failure | output
    · obtain rfl : outcome' = .error failure := by
        rcases hends with hsame | ⟨-, output, output', hok, -⟩
        · exact hsame
        · cases hok
      exact ⟨_, _, _, y, c, d, .stopped hattempt, .stopped hattempt', .cons hends .nil⟩
    · obtain ⟨output', rfl, houtput⟩ : ∃ output', outcome' = .ok output' ∧
          (output = output' ∨ stage.type = type) := by
        rcases hends with hsame | ⟨htype, -, output', -, hok⟩
        · exact ⟨output, hsame, .inl rfl⟩
        · exact ⟨output', hok, .inr htype⟩
      obtain ⟨later, outcomes, outcomes', z, e, f, hrun, hrun', halike⟩ :=
        ih hregistered.2 hfree.2 (by simp [hlength]) (hagree.append houtput) y c d
      exact ⟨_, _, _, z, e, f, .continued hattempt hrun, .continued hattempt' hrun',
        .cons hends halike⟩

end Pair

namespace OutcomesAlike

variable {type : String} {stages : List Stage} {outcomes outcomes' : List (Except Failure Json)}

theorem all_isOk (h : OutcomesAlike type stages outcomes outcomes') :
    outcomes'.all (·.isOk) = outcomes.all (·.isOk) := by
  induction h with
  | nil => rfl
  | cons hends _ ih =>
    rw [List.all_cons, List.all_cons, ih]
    rcases hends with rfl | ⟨-, output, output', rfl, rfl⟩ <;> rfl

theorem length_eq (h : OutcomesAlike type stages outcomes outcomes') :
    outcomes'.length = outcomes.length := by
  induction h with
  | nil => rfl
  | cons _ _ ih => rw [List.length_cons, List.length_cons, ih]

/-- Stages of other types end in the same way. -/
theorem getElem?_eq (h : OutcomesAlike type stages outcomes outcomes') {i : Nat} {stage : Stage}
    (hstage : stages[i]? = some stage) (hne : stage.type ≠ type) :
    outcomes'[i]? = outcomes[i]? := by
  induction h generalizing i with
  | nil => rfl
  | cons hends _ ih =>
    cases i with
    | zero =>
      rcases hends with rfl | ⟨htype, -⟩
      · rfl
      · rw [List.getElem?_cons_zero, Option.some.injEq] at hstage
        rw [hstage] at htype
        exact absurd htype hne
    | succ i =>
      rw [List.getElem?_cons_succ] at hstage ⊢
      exact ih hstage

end OutcomesAlike

/-- Outputs that no stage mentions do not leak. Whatever two handlers of a type return, as long as
    they do not fail, a pipeline without a placeholder for the type makes the same calls with the
    same options, leaves the same state to the other handlers, gets equally far, and leaves the same
    entries, durations aside, for all stages of other types. -/
theorem Pipeline.execute_unreferenced (pipeline : Pipeline) (others : Registry σ) (type : String)
    (own : Handler α) (own' : Handler β) (hown : own.Succeeds) (hown' : own'.Succeeds)
    (hregistered : ∀ stage ∈ pipeline.stages,
      (others.withPrivate type own).has stage.type = true)
    (hfree : ∀ stage ∈ pipeline.stages, type ∉ Placeholder.optionReferences stage.options)
    (clock : σ × α → Nat) (clock' : σ × β → Nat) (x : σ) (a : α) (b : β) :
    ∃ trace trace' calls y c d,
      pipeline.execute clock (others.withPrivate type own) (x, a) = (.ok trace, y, c) ∧
      pipeline.execute (fun s => clock s.1) (others.withPrivate type own).recorded ((x, a), []) =
        (.ok trace, (y, c), calls) ∧
      pipeline.execute clock' (others.withPrivate type own') (x, b) = (.ok trace', y, d) ∧
      pipeline.execute (fun s => clock' s.1) (others.withPrivate type own').recorded
        ((x, b), []) = (.ok trace', (y, d), calls) ∧
      trace'.succeeded = trace.succeeded ∧ trace'.stages.length = trace.stages.length ∧
      ∀ (i : Nat) (stage : Stage), pipeline.stages[i]? = some stage → stage.type ≠ type →
        trace'.untimed.stages[i]? = trace.untimed.stages[i]? := by
  have hregistered' : ∀ stage ∈ pipeline.stages,
      (others.withPrivate type own').has stage.type = true := by
    intro stage hstage
    rw [others.has_withPrivate type own' own]
    exact hregistered stage hstage
  have hagree : AgreeBut type (History.latest? []) (History.latest? []) := fun _ _ => rfl
  obtain ⟨calls, outcomes, outcomes', y, c, d, hrun, hrun', halike⟩ :=
    HistoryRun.exists_pair hown hown' hregistered hfree rfl hagree x a b
  obtain ⟨trace, hplain, hrecorded, huntimed⟩ := hrun.execute_eq hregistered clock
  obtain ⟨trace', hplain', hrecorded', huntimed'⟩ := hrun'.execute_eq hregistered' clock'
  refine ⟨trace, trace', calls, y, c, d, hplain, hrecorded, hplain', hrecorded', ?_, ?_, ?_⟩
  · have hsucceeded : trace.succeeded = outcomes.all (·.isOk) := congrArg Trace.succeeded huntimed
    have hsucceeded' : trace'.succeeded = outcomes'.all (·.isOk) :=
      congrArg Trace.succeeded huntimed'
    rw [hsucceeded, hsucceeded', halike.all_isOk]
  · rw [Trace.length_stages huntimed hrun.length_outcomes_le,
      Trace.length_stages huntimed' hrun'.length_outcomes_le, halike.length_eq]
  · intro i stage hstage hne
    rw [huntimed, huntimed', Trace.ofOutcomes, Trace.ofOutcomes, StageResult.getElem?_ofOutcomes,
      StageResult.getElem?_ofOutcomes, halike.getElem?_eq hstage hne]

/-- A handler that returns nothing and one that returns what it was called with before. -/
def Handler.quiet : Handler Unit :=
  .pure "Returns nothing" fun _ => .ok .null

def Handler.delayed : Handler Nat :=
  ⟨"Returns the number of options of the call before",
    fun options before => (.ok (.number (.integer before)), options.entries.length)⟩

/-- A stage of a type that nothing mentions, in front of two counts. -/
def Pipeline.unreferenced : Pipeline :=
  ⟨"unreferenced", ⟨"noise", .empty⟩ :: counted.stages.take 2⟩

/-- The second count, which mentions the first, is the same behind both handlers. -/
theorem Pipeline.execute_unreferenced_noise :
    Handler.quiet.Succeeds ∧ Handler.delayed.Succeeds ∧
      (∀ stage ∈ unreferenced.stages,
        (Registry.counting.withPrivate "noise" Handler.quiet).has stage.type = true) ∧
      (∀ stage ∈ unreferenced.stages,
        "noise" ∉ Placeholder.optionReferences stage.options) ∧
      ∃ trace trace' c d,
        unreferenced.execute (fun _ => 0) (Registry.counting.withPrivate "noise" Handler.quiet)
          (0, ()) = (.ok trace, 2, c) ∧
        unreferenced.execute (fun _ => 0) (Registry.counting.withPrivate "noise" Handler.delayed)
          (0, 7) = (.ok trace', 2, d) ∧
        trace'.untimed.stages[2]? = trace.untimed.stages[2]? := by
  have hquiet : Handler.quiet.Succeeds := fun _ _ => ⟨_, _, rfl⟩
  have hdelayed : Handler.delayed.Succeeds := fun _ _ => ⟨_, _, rfl⟩
  have hregistered : ∀ stage ∈ unreferenced.stages,
      (Registry.counting.withPrivate "noise" Handler.quiet).has stage.type = true := by
    decide
  have hfree : ∀ stage ∈ unreferenced.stages,
      "noise" ∉ Placeholder.optionReferences stage.options := by
    decide
  obtain ⟨trace, trace', calls, y, c, d, hplain, -, hplain', -, -, -, hentries⟩ :=
    execute_unreferenced unreferenced .counting "noise" .quiet .delayed hquiet hdelayed hregistered
      hfree (fun _ => 0) (fun _ => 0) 0 () 7
  obtain rfl : 2 = y := by
    refine Eq.trans ?_ (congrArg (fun result => result.2.1) hplain)
    decide
  exact ⟨hquiet, hdelayed, hregistered, hfree, trace, trace', c, d, hplain, hplain',
    hentries 2 ⟨"count", _⟩ rfl (by decide)⟩

end Stageflow
