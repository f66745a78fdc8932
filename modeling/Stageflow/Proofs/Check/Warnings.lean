import Stageflow.Check
import Stageflow.Proofs.Placeholder.Occurrences
import Stageflow.Proofs.Run.Outcome

namespace Stageflow

variable {σ : Type}

theorem Stage.mem_dangling_iff {stage : Stage} {index : Nat} {earlier : List String}
    {dangling : DanglingReference} :
    dangling ∈ stage.dangling index earlier ↔
      ∃ option text reference, (option, .text text) ∈ stage.options.entries ∧
        reference ∈ Placeholder.references text ∧ reference ∉ earlier ∧
        dangling = ⟨index, stage.type, option, reference⟩ := by
  rw [Stage.dangling, List.mem_flatMap]
  constructor
  · rintro ⟨⟨option, value⟩, hentry, hmem⟩
    cases value with
    | flag b => cases hmem
    | text text =>
      simp only [OptionValue.text?, List.mem_map, List.mem_filter, Bool.not_eq_true',
        List.contains_eq_mem, decide_eq_false_iff_not] at hmem
      obtain ⟨reference, ⟨hreference, hearlier⟩, rfl⟩ := hmem
      exact ⟨option, text, reference, hentry, hreference, hearlier, rfl⟩
  · rintro ⟨option, text, reference, hentry, hreference, hearlier, rfl⟩
    refine ⟨_, hentry, ?_⟩
    simp only [OptionValue.text?, List.mem_map, List.mem_filter, Bool.not_eq_true',
      List.contains_eq_mem, decide_eq_false_iff_not]
    exact ⟨reference, ⟨hreference, hearlier⟩, rfl⟩

theorem Stage.index_of_mem_dangling {stage : Stage} {index : Nat} {earlier : List String}
    {warning : DanglingReference} (h : warning ∈ stage.dangling index earlier) :
    warning.index = index := by
  obtain ⟨option, text, reference, -, -, -, rfl⟩ := Stage.mem_dangling_iff.1 h
  rfl

/-- The warnings of a stage name its placeholders that no earlier stage type provides, in the order
    in which placeholders are resolved. -/
theorem Stage.references_dangling (stage : Stage) (index : Nat) (earlier : List String) :
    (stage.dangling index earlier).map (·.reference) =
      (Placeholder.optionReferences stage.options).filter (!earlier.contains ·) := by
  rw [Stage.dangling, Placeholder.optionReferences_eq]
  induction stage.options.entries with
  | nil => rfl
  | cons entry entries ih =>
    obtain ⟨name, value⟩ := entry
    rw [List.flatMap_cons, List.map_append, ih]
    cases value with
    | flag b => rfl
    | text s =>
      have hrefs : Placeholder.entryReferences ((name, .text s) :: entries) =
          Placeholder.references s ++ Placeholder.entryReferences entries := rfl
      rw [hrefs, List.filter_append]
      simp only [OptionValue.text?, List.map_map, Function.comp_def, List.map_id']

theorem History.latest?_isNone (history : History) (type : String) :
    (history.latest? type).isNone = !(history.map (·.1)).reverse.contains type := by
  have h : (lookup type history.reverse).isSome = true ↔ type ∈ history.reverse.map (·.1) :=
    lookup_isSome_iff
  rw [List.map_reverse] at h
  rw [Bool.eq_iff_iff, ← Option.not_isSome, Bool.not_eq_true', Bool.not_eq_true',
    ← Bool.not_eq_true, ← Bool.not_eq_true, History.latest?, h, List.contains_iff_mem]

/-- The placeholder at which a stage fails is the one that its first warning names. -/
theorem Stage.missing?_eq_head?_dangling (stage : Stage) (history : History) (index : Nat) :
    Placeholder.missing? history.latest? stage.options =
      (stage.dangling index (history.map (·.1)).reverse).head?.map (·.reference) := by
  rw [← List.head?_map, references_dangling, List.head?_filter, Placeholder.missing?]
  simp only [History.latest?_isNone]

/-- The warnings about stages that run behind a history. -/
def danglingAfter (registry : Registry σ) (history : History) (stages : List Stage) :
    List DanglingReference :=
  (checkStages registry history.length (history.map (·.1)).reverse stages).dangling

theorem danglingAfter_cons (registry : Registry σ) (history : History) (stage : Stage)
    (stages : List Stage) (output : Json) :
    danglingAfter registry history (stage :: stages) =
      stage.dangling history.length (history.map (·.1)).reverse ++
        danglingAfter registry (history ++ [(stage.type, output)]) stages := by
  simp only [danglingAfter, checkStages, List.length_append, List.length_singleton,
    List.map_append, List.map_singleton, List.reverse_append, List.reverse_singleton,
    List.singleton_append]

theorem index_le_of_mem_dangling {registry : Registry σ} {index : Nat} {earlier : List String}
    {stages : List Stage} {warning : DanglingReference}
    (h : warning ∈ (checkStages registry index earlier stages).dangling) :
    index ≤ warning.index := by
  induction stages generalizing index earlier with
  | nil => cases h
  | cons stage stages ih =>
    rcases List.mem_append.1 h with h | h
    · exact Nat.le_of_eq (Stage.index_of_mem_dangling h).symm
    · exact Nat.le_of_succ_le (ih h)

/-- Warnings come in the order of the stages that they are about. -/
theorem pairwise_index_dangling (registry : Registry σ) (index : Nat) (earlier : List String)
    (stages : List Stage) :
    (checkStages registry index earlier stages).dangling.Pairwise (·.index ≤ ·.index) := by
  induction stages generalizing index earlier with
  | nil => exact .nil
  | cons stage stages ih =>
    rw [checkStages, List.pairwise_append]
    refine ⟨?_, ih _ _, ?_⟩
    · rw [List.pairwise_iff_forall_sublist]
      intro first second hsublist
      have hfirst := Stage.index_of_mem_dangling (hsublist.subset List.mem_cons_self)
      have hsecond := Stage.index_of_mem_dangling
        (hsublist.subset (List.mem_cons_of_mem _ List.mem_cons_self))
      exact Nat.le_of_eq (hfirst.trans hsecond.symm)
    · intro first hfirst second hsecond
      rw [Stage.index_of_mem_dangling hfirst]
      exact Nat.le_of_succ_le (index_le_of_mem_dangling hsecond)

namespace HistoryRun

variable {registry : Registry σ} {history : History} {s final : σ} {stages : List Stage}
  {calls : List Call} {outcomes : List (Except Failure Json)}

/-- Stages without warnings fail only where a handler fails. -/
theorem kind_eq_handler (hrun : HistoryRun registry history s stages calls outcomes final)
    (hclean : danglingAfter registry history stages = []) {failure : Failure}
    (hfailure : .error failure ∈ outcomes) : failure.kind = .handler := by
  induction hrun with
  | finished => cases hfailure
  | @stopped history s after stage stages calls failure hattempt =>
    rw [danglingAfter_cons registry history stage stages .null, List.append_eq_nil_iff] at hclean
    obtain rfl := Except.error.inj (List.mem_singleton.1 hfailure)
    cases hattempt with
    | unresolved hmissing =>
      rw [stage.missing?_eq_head?_dangling history history.length, hclean.1] at hmissing
      cases hmissing
    | failed => rfl
  | continued hattempt hrun ih =>
    rw [danglingAfter_cons, List.append_eq_nil_iff] at hclean
    rcases List.mem_cons.1 hfailure with h | h
    · cases h
    · exact ih hclean.2 h

/-- Stages with warnings never all succeed: a handler fails before the stage of the first warning,
    or that stage fails at the reference that the warning names and calls no handler. -/
theorem stops_at_first_dangling (hrun : HistoryRun registry history s stages calls outcomes final)
    {first : DanglingReference} {rest : List DanglingReference}
    (hdangling : danglingAfter registry history stages = first :: rest) :
    ∃ outputs failure, outcomes = stoppedOutcomes outputs failure ∧
      ((history.length + outputs.length < first.index ∧
          ∃ type error, failure = .handler type (history.length + outputs.length) error) ∨
        (history.length + outputs.length = first.index ∧
          (∃ type, failure = .unresolvedReference first.reference type first.index) ∧
          calls.map (·.type) = (stages.take outputs.length).map (·.type))) := by
  induction hrun with
  | finished => cases hdangling
  | @stopped history s after stage stages calls failure hattempt =>
    -- Warnings look at types only, so that any output can stand for that of the failed stage.
    rw [danglingAfter_cons registry history stage stages .null] at hdangling
    have hmissing? := stage.missing?_eq_head?_dangling history history.length
    refine ⟨[], failure, rfl, ?_⟩
    cases hwarnings : stage.dangling history.length (history.map (·.1)).reverse with
    | nil =>
      rw [hwarnings, List.nil_append] at hdangling
      rw [hwarnings] at hmissing?
      left
      constructor
      · have hmem : first ∈ danglingAfter registry (history ++ [(stage.type, .null)]) stages := by
          rw [hdangling]
          exact List.mem_cons_self
        have hle := index_le_of_mem_dangling hmem
        rw [List.length_append, List.length_singleton] at hle
        exact hle
      · cases hattempt with
        | unresolved hmissing =>
          rw [hmissing?] at hmissing
          cases hmissing
        | failed => exact ⟨_, _, rfl⟩
    | cons warning warnings =>
      rw [hwarnings, List.cons_append] at hdangling
      obtain ⟨rfl, -⟩ := List.cons.inj hdangling
      have hindex : warning.index = history.length := by
        have hmem : warning ∈ stage.dangling history.length (history.map (·.1)).reverse := by
          rw [hwarnings]
          exact List.mem_cons_self
        exact Stage.index_of_mem_dangling hmem
      rw [hwarnings, List.head?_cons, Option.map_some] at hmissing?
      right
      cases hattempt with
      | unresolved hmissing =>
        obtain rfl := Option.some.inj (hmissing?.symm.trans hmissing)
        exact ⟨hindex.symm, ⟨_, by rw [hindex]⟩, rfl⟩
      | failed hmissing =>
        rw [hmissing?] at hmissing
        cases hmissing
  | @continued history s after final stage stages calls later output outcomes hattempt hrun ih =>
    cases hattempt with
    | succeeded hmissing =>
      rw [stage.missing?_eq_head?_dangling history history.length, Option.map_eq_none_iff,
        List.head?_eq_none_iff] at hmissing
      rw [danglingAfter_cons registry history stage stages output, hmissing,
        List.nil_append] at hdangling
      obtain ⟨outputs, failure, rfl, hends⟩ := ih hdangling
      refine ⟨output :: outputs, failure, rfl, ?_⟩
      have hlength : (history ++ [(stage.type, output)]).length + outputs.length =
          history.length + (output :: outputs).length := by
        simp only [List.length_append, List.length_cons, List.length_nil]
        omega
      rw [hlength] at hends
      refine hends.imp id ?_
      rintro ⟨hindex, hfailure, hcalls⟩
      refine ⟨hindex, hfailure, ?_⟩
      rw [List.map_append, hcalls]
      rfl

end HistoryRun

/-! What warnings say. -/

/-- A pipeline has a placeholder for a type that does not run before it, and this is the warning
    about it: no stage in front of the one with the given number has the type that is referred to
    by a text among the options of that stage. -/
inductive Pipeline.Warns (pipeline : Pipeline) (index : Nat) (reference : String) :
    String → Prop where
  | mk {stage : Stage} {option text : String} {start stop : Nat}
      (hstage : pipeline.stages[index]? = some stage)
      (hoption : stage.options.get? option = some (.text text))
      (hoccurs : Placeholder.OccursIn text ⟨start, stop, reference⟩)
      (hearlier : ∀ earlier ∈ pipeline.stages.take index, earlier.type ≠ reference) :
      Warns pipeline index reference
        (s!"Stage {index} ('{stage.type}'): --{option} references " ++
          s!"'\x7b\x7b{reference}\x7d\x7d' which does not run before it")

/-- A warning begins with the number of the stage, behind which there is a blank. -/
private theorem Pipeline.Warns.exists_behind {pipeline : Pipeline} {index : Nat}
    {reference warning : String} (h : pipeline.Warns index reference warning) :
    ∃ behind, warning.toList = "Stage ".toList ++ ((toString index).toList ++ ' ' :: behind) := by
  obtain @⟨stage, option, -, -, -, -, -, -, -⟩ := h
  have hwarning : s!"Stage {index} ('{stage.type}'): --{option} references " =
      "Stage " ++ toString index ++ " ('" ++ stage.type ++ "'): --" ++ option ++
        " references " := rfl
  have hblank : " ('".toList = ' ' :: "('".toList := by simp
  rw [hwarning]
  simp only [String.toList_append, hblank, List.append_assoc, List.cons_append]
  exact ⟨_, rfl⟩

/-- A warning ends with the reference, in front of which there is a brace. -/
private theorem Pipeline.Warns.exists_before {pipeline : Pipeline} {index : Nat}
    {reference warning : String} (h : pipeline.Warns index reference warning) :
    ∃ before, warning.toList = before ++ '\x7b' :: reference.toList ++
      "\x7d\x7d' which does not run before it".toList := by
  obtain @⟨stage, option, -, -, -, -, -, -, -⟩ := h
  have hwarning : s!"'\x7b\x7b{reference}\x7d\x7d' which does not run before it" =
      "'\x7b\x7b" ++ reference ++ "\x7d\x7d' which does not run before it" := rfl
  have hbrace : "'\x7b\x7b".toList = "'\x7b".toList ++ ['\x7b'] := by simp
  refine ⟨(s!"Stage {index} ('{stage.type}'): --{option} references " ++ "'\x7b").toList, ?_⟩
  rw [hwarning]
  simp only [String.toList_append, hbrace, List.append_assoc, List.cons_append, List.nil_append]

/-- The digits behind the first word of a warning are those of the number of its stage. -/
private theorem Pipeline.Warns.takeWhile_isDigit {pipeline : Pipeline} {index : Nat}
    {reference warning : String} (h : pipeline.Warns index reference warning) :
    (warning.toList.drop 6).takeWhile Char.isDigit = Nat.toDigits 10 index := by
  obtain ⟨behind, hbehind⟩ := h.exists_behind
  have hlength : "Stage ".toList.length = 6 := rfl
  have hdigits : (toString index).toList = Nat.toDigits 10 index := Nat.toList_repr
  rw [hbehind, List.drop_left' hlength, hdigits, List.takeWhile_append_of_pos,
    List.takeWhile_cons_of_neg (by decide), List.append_nil]
  exact fun c hc => Nat.isDigit_of_mem_toDigits (by decide) (by decide) hc

/-- Read backwards, the reference stands behind what every warning ends with. -/
private theorem Pipeline.Warns.takeWhile_isTypeChar {pipeline : Pipeline} {index : Nat}
    {reference warning : String} (h : pipeline.Warns index reference warning) :
    (warning.toList.reverse.drop 32).takeWhile isTypeChar = reference.toList.reverse := by
  obtain ⟨before, hbefore⟩ := h.exists_before
  obtain ⟨-, -, hoccurs, -⟩ := h
  have hlength : "\x7d\x7d' which does not run before it".toList.reverse.length = 32 := rfl
  rw [hbefore, List.reverse_append, List.drop_left' hlength, List.reverse_append,
    List.reverse_cons, List.append_assoc, List.takeWhile_append_of_pos, List.singleton_append,
    List.takeWhile_cons_of_neg (by decide), List.append_nil]
  exact fun c hc => hoccurs.isTypeChar (List.mem_reverse.1 hc)

/-- The number of the stage can be read off a warning, and so can the reference. What stands between
    them is arbitrary, so that the one is found from the left and the other from the right. -/
theorem Pipeline.Warns.unique {pipeline : Pipeline} {index index' : Nat}
    {reference reference' warning : String} (h : pipeline.Warns index reference warning)
    (h' : pipeline.Warns index' reference' warning) :
    index' = index ∧ reference' = reference := by
  constructor
  · calc
      index' = Nat.ofDigitChars 10 (Nat.toDigits 10 index') 0 :=
        Nat.ofDigitChars_ten_toDigits.symm
      _ = Nat.ofDigitChars 10 (Nat.toDigits 10 index) 0 := by
        rw [← h'.takeWhile_isDigit, h.takeWhile_isDigit]
      _ = index := Nat.ofDigitChars_ten_toDigits
  · have hreverse := h'.takeWhile_isTypeChar.symm.trans h.takeWhile_isTypeChar
    rw [List.reverse_inj, String.toList_inj] at hreverse
    exact hreverse

theorem mem_dangling_checkStages {registry : Registry σ} {index : Nat} {earlier : List String}
    {stages : List Stage} {dangling : DanglingReference} :
    dangling ∈ (checkStages registry index earlier stages).dangling ↔
      ∃ (i : Nat) (stage : Stage), stages[i]? = some stage ∧
        dangling ∈ stage.dangling (index + i)
          (((stages.take i).map (·.type)).reverse ++ earlier) := by
  induction stages generalizing index earlier with
  | nil => simp [checkStages]
  | cons stage stages ih =>
    rw [checkStages, List.mem_append, ih]
    constructor
    · rintro (h | ⟨i, other, hother, h⟩)
      · exact ⟨0, stage, rfl, h⟩
      · refine ⟨i + 1, other, hother, ?_⟩
        rw [List.take_succ_cons, List.map_cons, List.reverse_cons, List.append_assoc,
          ← Nat.add_assoc, Nat.add_right_comm index i 1]
        exact h
    · rintro ⟨_ | i, other, hother, h⟩
      · cases hother
        exact .inl h
      · refine .inr ⟨i, other, hother, ?_⟩
        rw [List.take_succ_cons, List.map_cons, List.reverse_cons, List.append_assoc,
          ← Nat.add_assoc, Nat.add_right_comm index i 1] at h
        exact h

/-- The records of a check are those of the placeholders that deserve a warning. -/
theorem Pipeline.warns_iff {pipeline : Pipeline} (registry : Registry σ) {index : Nat}
    {reference warning : String} :
    pipeline.Warns index reference warning ↔
      ∃ dangling ∈ (pipeline.check registry).dangling, dangling.index = index ∧
        dangling.reference = reference ∧ dangling.message = warning := by
  have htypes : ∀ index, reference ∉ ((pipeline.stages.take index).map (·.type)).reverse ++ [] ↔
      ∀ earlier ∈ pipeline.stages.take index, earlier.type ≠ reference := by
    intro index
    rw [List.append_nil, List.mem_reverse, List.mem_map, not_exists]
    exact forall_congr' fun _ => not_and
  constructor
  · rintro ⟨hstage, hoption, hoccurs, hearlier⟩
    refine ⟨_, mem_dangling_checkStages.2 ⟨index, _, hstage, Stage.mem_dangling_iff.2 ⟨_, _,
      reference, mem_of_lookup hoption, Placeholder.mem_references_iff.2 ⟨_, _, hoccurs⟩,
      (htypes index).2 hearlier, rfl⟩⟩, Nat.zero_add index, rfl, ?_⟩
    rw [Nat.zero_add]
    rfl
  · rintro ⟨dangling, hmem, rfl, rfl, rfl⟩
    obtain ⟨i, stage, hstage, hmem⟩ := mem_dangling_checkStages.1 hmem
    obtain ⟨option, text, name, hentry, hreference, hearlier, rfl⟩ := Stage.mem_dangling_iff.1 hmem
    obtain ⟨start, stop, hoccurs⟩ := Placeholder.mem_references_iff.1 hreference
    rw [Nat.zero_add]
    exact .mk hstage (lookup_of_mem stage.options.nodup hentry) hoccurs ((htypes i).1 hearlier)

theorem Pipeline.mem_warnings_iff {pipeline : Pipeline} {registry : Registry σ} {warning : String} :
    warning ∈ (pipeline.check registry).warnings ↔
      ∃ index reference, pipeline.Warns index reference warning := by
  simp only [Findings.warnings, List.mem_map, warns_iff registry]
  constructor
  · rintro ⟨dangling, hmem, hmessage⟩
    exact ⟨_, _, dangling, hmem, rfl, rfl, hmessage⟩
  · rintro ⟨-, -, dangling, hmem, -, -, hmessage⟩
    exact ⟨dangling, hmem, hmessage⟩

theorem Findings.warnings_eq_nil_iff {findings : Findings} :
    findings.warnings = [] ↔ findings.dangling = [] :=
  List.map_eq_nil_iff

theorem Findings.hasWarnings_eq_false_iff {findings : Findings} :
    findings.hasWarnings = false ↔ findings.warnings = [] := by
  rw [hasWarnings, Bool.not_eq_false', List.isEmpty_iff]

/-- The first of all warnings is about the stage with the least number that has one. -/
theorem Pipeline.first_of_warnings {pipeline : Pipeline} {registry : Registry σ}
    {warning : String} {warnings : List String}
    (h : (pipeline.check registry).warnings = warning :: warnings) {index : Nat}
    {reference : String} (hwarns : pipeline.Warns index reference warning) :
    (∃ first rest, danglingAfter registry [] pipeline.stages = first :: rest ∧
      first.index = index ∧ first.reference = reference) ∧
      ∀ other i name, pipeline.Warns i name other → index ≤ i := by
  obtain ⟨first, rest, hdangling, rfl, -⟩ := List.map_eq_cons_iff.1 h
  have hmem : first ∈ (pipeline.check registry).dangling := by
    rw [hdangling]
    exact List.mem_cons_self
  have hfirst : pipeline.Warns first.index first.reference first.message :=
    (warns_iff registry).2 ⟨first, hmem, rfl, rfl, rfl⟩
  obtain ⟨rfl, rfl⟩ := hfirst.unique hwarns
  refine ⟨⟨first, rest, hdangling, rfl, rfl⟩, ?_⟩
  intro other i name hother
  obtain ⟨dangling, hdangling', rfl, -⟩ := (warns_iff registry).1 hother
  have hsorted : (pipeline.check registry).dangling.Pairwise (·.index ≤ ·.index) :=
    pairwise_index_dangling registry 0 [] pipeline.stages
  rw [hdangling] at hdangling' hsorted
  rcases List.mem_cons.1 hdangling' with rfl | hbehind
  · exact Nat.le_refl _
  · exact List.rel_of_pairwise_cons hsorted hbehind

/-- The warnings of a check are exact for the runs of a pipeline, whatever its handlers do. Without
    warnings no run ends with an unresolved reference. With warnings no run succeeds: either a
    handler fails before the first stage that has one, or that stage fails at the reference of its
    first warning, when only the handlers of the stages before it have been called. -/
theorem Pipeline.check_exact (pipeline : Pipeline) (registry : Registry σ)
    (hregistered : ∀ stage ∈ pipeline.stages, registry.has stage.type = true)
    (clock : σ → Nat) (s : σ) :
    ∃ trace calls final,
      pipeline.execute clock registry s = (.ok trace, final) ∧
      pipeline.execute (fun s => clock s.1) registry.recorded (s, []) =
        (.ok trace, final, calls) ∧
      (∀ warning, warning ∈ (pipeline.check registry).warnings ↔
        ∃ index reference, pipeline.Warns index reference warning) ∧
      ((pipeline.check registry).hasWarnings = false ↔
        (pipeline.check registry).warnings = []) ∧
      ((pipeline.check registry).warnings = [] →
        ∀ result ∈ trace.stages, ∀ error, result.error = some error →
          error.kind ≠ .unresolvedReference) ∧
      ∀ warning warnings, (pipeline.check registry).warnings = warning :: warnings →
        ∀ index reference, pipeline.Warns index reference warning →
          (∀ other i name, pipeline.Warns i name other → index ≤ i) ∧
          ∃ error, trace.EndsWith error ∧
            ((error.kind = .handler ∧ error.stageIndex < index) ∨
              (error.kind = .unresolvedReference ∧ error.stageIndex = index ∧
                error.reference = some reference ∧
                calls.map (·.type) = (pipeline.stages.take index).map (·.type))) := by
  obtain ⟨calls, outcomes, final, hrun⟩ := HistoryRun.exists_of_registered [] s hregistered
  obtain ⟨trace, hplain, hrecorded, huntimed⟩ := hrun.execute_eq hregistered clock
  refine ⟨trace, calls, final, hplain, hrecorded, fun _ => mem_warnings_iff,
    Findings.hasWarnings_eq_false_iff, ?_, ?_⟩
  · intro hwarnings result hresult error herror
    have hclean : danglingAfter registry [] pipeline.stages = [] :=
      Findings.warnings_eq_nil_iff.1 hwarnings
    obtain ⟨failure, hfailure, place, rfl⟩ := trace.exists_failure_of_error huntimed hresult herror
    have hkind := hrun.kind_eq_handler hclean hfailure
    rw [StageError.kind_ofFailure, hkind]
    decide
  · intro warning warnings hwarnings index reference hwarns
    obtain ⟨⟨first, rest, hdangling, rfl, rfl⟩, hleast⟩ := first_of_warnings hwarnings hwarns
    refine ⟨hleast, ?_⟩
    obtain ⟨outputs, failure, rfl, hends⟩ := hrun.stops_at_first_dangling hdangling
    have hends' := trace.endsWith_of_stoppedOutcomes hrun.length_outcomes_le huntimed
    rw [List.length_nil, Nat.zero_add] at hends
    rcases hends with ⟨hindex, type, error, rfl⟩ | ⟨hindex, ⟨type, rfl⟩, hcalls⟩
    · exact ⟨_, hends' rfl, .inl ⟨rfl, hindex⟩⟩
    · refine ⟨_, hends' (congrArg some hindex.symm), .inr ⟨rfl, rfl, rfl, ?_⟩⟩
      rw [← hindex]
      exact hcalls

/-- The second stage has the only warning. As counting never fails, every run ends there. -/
theorem Pipeline.check_exact_early :
    (∀ stage ∈ early.stages, Registry.counting.has stage.type = true) ∧
      (early.check Registry.counting).warnings =
        ["Stage 1 ('count'): --after references '\x7b\x7btotal\x7d\x7d' which does not run before it"] ∧
      ∃ trace calls final error,
        early.execute (fun s => s.1) Registry.counting.recorded (0, []) =
          (.ok trace, final, calls) ∧
        trace.EndsWith error ∧ error.kind = .unresolvedReference ∧ error.stageIndex = 1 ∧
        error.reference = some "total" ∧ calls.map (·.type) = ["count"] := by
  have hregistered : ∀ stage ∈ early.stages, Registry.counting.has stage.type = true := by
    decide
  have hwarnings : (early.check Registry.counting).warnings =
      ["Stage 1 ('count'): --after references '\x7b\x7btotal\x7d\x7d' which does not run before it"] := by
    decide
  have hwarns : early.Warns 1 "total"
      "Stage 1 ('count'): --after references '\x7b\x7btotal\x7d\x7d' which does not run before it" :=
    (warns_iff .counting).2 ⟨⟨1, "count", "after", "total"⟩, by decide⟩
  obtain ⟨trace, calls, final, -, hrecorded, -, -, -, hends⟩ :=
    check_exact early .counting hregistered id 0
  obtain ⟨-, error, herror, hcases⟩ := hends _ _ hwarnings 1 "total" hwarns
  refine ⟨hregistered, hwarnings, trace, calls, final, error, hrecorded, herror, ?_⟩
  rcases hcases with ⟨hkind, -⟩ | hstopped
  · obtain ⟨trace', after, hexecute, hkind'⟩ : ∃ trace' after,
        early.execute (fun s => s.1) Registry.counting.recorded (0, []) = (.ok trace', after) ∧
          trace'.failure?.map (·.kind) = some .unresolvedReference :=
      ⟨_, _, rfl, rfl⟩
    obtain ⟨htrace, -⟩ := Prod.mk.inj (hexecute.symm.trans hrecorded)
    rw [Except.ok.inj htrace, herror.failure?, Option.map_some, hkind] at hkind'
    cases hkind'
  · exact hstopped

end Stageflow
