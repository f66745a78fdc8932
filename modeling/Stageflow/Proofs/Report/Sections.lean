import Stageflow.Proofs.Check.Preflight
import Stageflow.Proofs.Expression.Spelling
import Stageflow.Proofs.Text.Lines
import Stageflow.Report

namespace Stageflow

open Text

/-- The line that opens the part of a stage in a report. -/
def StageResult.heading (result : StageResult) : String :=
  let outcome := if result.error.isSome then "failed" else "ok"
  s!"[{result.index}] {result.type} {outcome} ({result.durationMs}ms)"

/-- What a report says of a stage below its heading: the lines of the text that its output is
    inserted as, or the lines of its error and behind them those of a hint. -/
inductive StageResult.Details (result : StageResult) : List (List Char) → Prop where
  | succeeded {output : Json} {found : List (List Char)} (herror : result.error = none)
      (houtput : result.output = some output)
      (hlines : HasLines output.insertionText.toList found) : Details result found
  | failed {error : StageError} {found : List (List Char)} (herror : result.error = some error)
      (hhelp : error.help = none) (hlines : HasLines error.display.toList found) :
      Details result found
  | advised {error : StageError} {help : String} {found hint : List (List Char)}
      (herror : result.error = some error) (hhelp : error.help = some help)
      (hlines : HasLines error.display.toList found)
      (hhint : HasLines ("help: " ++ help).toList hint) : Details result (found ++ hint)

namespace Report

/-- A line that begins with four spaces. -/
def isInset (line : List Char) : Bool :=
  [' ', ' ', ' ', ' '].isPrefixOf line

/-- Takes lines apart at those that are not inset. Returns the inset lines in front of the first
    of these, and each of them with the inset lines that follow it. Inset lines are given without
    their four spaces. -/
def sections : List (List Char) → List (List Char) × List (List Char × List (List Char))
  | [] => ([], [])
  | line :: lines =>
    let (inset, parts) := sections lines
    if isInset line then (line.drop 4 :: inset, parts) else ([], (line, inset) :: parts)

/-- A line behind four spaces. -/
private def inset (line : List Char) : List Char :=
  List.replicate 4 ' ' ++ line

private theorem sections_inset_append (details lines : List (List Char)) :
    sections (details.map inset ++ lines) =
      (details ++ (sections lines).1, (sections lines).2) := by
  induction details with
  | nil => rfl
  | cons line details ih =>
    rw [List.map_cons, List.cons_append, sections, ih]
    rfl

theorem headings_sections (lines : List (List Char)) :
    (sections lines).2.map (·.1) = lines.filter fun line => !isInset line := by
  induction lines with
  | nil => rfl
  | cons line lines ih =>
    rw [sections, List.filter_cons]
    cases isInset line with
    | true => exact ih
    | false => exact congrArg (line :: ·) ih

/-- Headings with inset lines below each of them are what such lines are taken apart into. -/
theorem sections_flatMap {parts : List (List Char × List (List Char))}
    (h : ∀ part ∈ parts, isInset part.1 = false) :
    sections (parts.flatMap fun part => part.1 :: part.2.map inset) = ([], parts) := by
  induction parts with
  | nil => rfl
  | cons part parts ih =>
    rw [List.forall_mem_cons] at h
    rw [List.flatMap_cons, List.cons_append, sections, sections_inset_append, ih h.2, h.1,
      List.append_nil]
    rfl

end Report

namespace StageResult

open Report

/-- The lines below the heading of a stage. -/
private def detailLines (result : StageResult) : List (List Char) :=
  match result.error with
  | some error =>
    lines error.display.toList ++
      error.help.elim [] fun help => lines ("help: " ++ help).toList
  | none => lines ((result.output.map Json.insertionText).getD "").toList

/-- The details of a stage that has either an output or an error are determined. -/
private theorem details_iff {result : StageResult} {found : List (List Char)}
    (houtcome : (∃ output, result.output = some output ∧ result.error = none) ∨
      ∃ error, result.output = none ∧ result.error = some error) :
    result.Details found ↔ found = result.detailLines := by
  rcases houtcome with ⟨output, houtput, herror⟩ | ⟨error, -, herror⟩
  · simp only [detailLines, herror, houtput, Option.map_some, Option.getD_some]
    rw [← hasLines_iff]
    constructor
    · rintro (⟨-, houtput', hlines⟩ | ⟨herror', -, -⟩ | ⟨herror', -, -, -⟩)
      · obtain rfl := Option.some.inj (houtput.symm.trans houtput')
        exact hlines
      · cases herror.symm.trans herror'
      · cases herror.symm.trans herror'
    · exact .succeeded herror houtput
  · simp only [detailLines, herror]
    constructor
    · rintro (⟨herror', -, -⟩ | ⟨herror', hhelp, hlines⟩ | ⟨herror', hhelp, hlines, hhint⟩)
      · cases herror.symm.trans herror'
      · obtain rfl := Option.some.inj (herror.symm.trans herror')
        rw [hhelp, hasLines_iff.1 hlines, Option.elim_none, List.append_nil]
      · obtain rfl := Option.some.inj (herror.symm.trans herror')
        rw [hhelp, hasLines_iff.1 hlines, hasLines_iff.1 hhint, Option.elim_some]
    · rintro rfl
      cases hhelp : error.help with
      | none =>
        rw [Option.elim_none, List.append_nil]
        exact .failed herror hhelp (hasLines_iff.2 rfl)
      | some help => exact .advised herror hhelp (hasLines_iff.2 rfl) (hasLines_iff.2 rfl)

/-! How the part of a stage is put together. -/

private theorem heading_eq (result : StageResult) :
    result.heading =
      "[" ++ toString result.index ++ "] " ++ result.type ++ " " ++
        (if result.error.isSome then "failed" else "ok") ++ " (" ++ toString result.durationMs ++
        "ms)" :=
  rfl

private theorem report_of_error {result : StageResult} {error : StageError}
    (herror : result.error = some error) :
    result.report = result.heading ++ "\n" ++
      (reportBlock error.display ++
        error.help.elim "" fun help => reportBlock ("help: " ++ help)) := by
  have hreport : result.report =
      "[" ++ toString result.index ++ "] " ++ result.type ++ " failed (" ++
        toString result.durationMs ++ "ms)\n" ++ reportBlock error.display ++
        error.help.elim "" fun help => reportBlock ("help: " ++ help) := by
    simp only [report, herror]
    cases error.help <;> rfl
  have houtcome : " failed (" = " " ++ "failed" ++ " (" := by decide
  have hend : "ms)\n" = "ms)" ++ "\n" := by decide
  rw [hreport, heading_eq, herror, Option.isSome_some, if_pos rfl, houtcome, hend]
  simp only [String.append_assoc]

private theorem report_of_no_error {result : StageResult} (herror : result.error = none) :
    result.report = result.heading ++ "\n" ++
      (let text := (result.output.map Json.insertionText).getD ""
      if text.isEmpty then "" else reportBlock text) := by
  have hreport : result.report =
      "[" ++ toString result.index ++ "] " ++ result.type ++ " ok (" ++
        toString result.durationMs ++ "ms)\n" ++
        (let text := (result.output.map Json.insertionText).getD ""
        if text.isEmpty then "" else reportBlock text) := by
    rw [report, herror]
    rfl
  have houtcome : " ok (" = " " ++ "ok" ++ " (" := by decide
  have hend : "ms)\n" = "ms)" ++ "\n" := by decide
  rw [hreport, heading_eq, herror, Option.isSome_none, if_neg Bool.false_ne_true, houtcome, hend]
  simp only [String.append_assoc]

private theorem toList_reportBlock {text : String} (hne : text ≠ "") :
    (reportBlock text).toList = terminated ((lines text.toList).map inset) := by
  rw [reportBlock, String.toList_append]
  exact toList_indent hne 4

private theorem toList_advice (help : Option String) :
    (help.elim "" fun help => reportBlock ("help: " ++ help)).toList =
      terminated ((help.elim [] fun help => lines ("help: " ++ help).toList).map inset) := by
  cases help with
  | none => rfl
  | some help =>
    have hne : "help: " ++ help ≠ "" := by
      rw [ne_eq, ← String.toList_eq_nil_iff, String.toList_append]
      exact List.append_ne_nil_of_left_ne_nil (by decide) _
    exact toList_reportBlock hne

/-- The part of a stage in a report is its heading with the details below it. -/
private theorem toList_report (result : StageResult) :
    result.report.toList =
      terminated (result.heading.toList :: result.detailLines.map inset) := by
  have hheading : ∀ rest : String, (result.heading ++ "\n" ++ rest).toList =
      terminated [result.heading.toList] ++ rest.toList := by
    intro rest
    rw [String.toList_append, String.toList_append, terminated, List.flatMap_singleton]
    rfl
  rw [← List.singleton_append, terminated_append]
  cases herror : result.error with
  | some error =>
    have hdisplay : error.display ≠ "" := by
      have heq : error.display = "[" ++ error.kind.name ++ "] " ++ error.message := rfl
      rw [ne_eq, ← String.toList_eq_nil_iff, heq]
      simp
    rw [report_of_error herror, hheading, String.toList_append, toList_reportBlock hdisplay,
      toList_advice, ← terminated_append, ← List.map_append]
    simp only [detailLines, herror]
  | none =>
    rw [report_of_no_error herror, hheading]
    simp only [detailLines, herror]
    generalize (result.output.map Json.insertionText).getD "" = text
    -- An empty text has no lines; the report then leaves out the block, which would be a line.
    by_cases hempty : text = ""
    · rw [hempty]
      rfl
    · rw [if_neg (by simpa using hempty), toList_reportBlock hempty]

theorem isInset_heading (result : StageResult) : isInset result.heading.toList = false := by
  rw [heading_eq]
  simp only [String.toList_append, List.append_assoc]
  rfl

theorem lineFeed_not_mem_heading {result : StageResult}
    (htype : isTypeName result.type.toList = true) : '\n' ∉ result.heading.toList := by
  have houtcome : '\n' ∉ (if result.error.isSome then "failed" else "ok").toList := by
    split <;> decide
  rw [heading_eq]
  simp only [String.toList_append, List.mem_append, not_or, lineFeed_not_mem_number,
    Expression.lineFeed_not_mem_of_isTypeName htype, houtcome, not_false_eq_true, and_true]
  decide

private theorem lineFeed_not_mem_detailLines {result : StageResult} {line : List Char}
    (h : line ∈ result.detailLines) : '\n' ∉ line := by
  rw [detailLines] at h
  split at h
  next error _ =>
    rcases List.mem_append.1 h with h | h
    · exact lineFeed_not_mem_of_mem_lines h
    · cases hhelp : error.help with
      | none =>
        rw [hhelp] at h
        cases h
      | some help =>
        rw [hhelp] at h
        exact lineFeed_not_mem_of_mem_lines h
  · exact lineFeed_not_mem_of_mem_lines h

end StageResult

namespace Trace

open Report

/-- What a report says of its stages one after the other. -/
private theorem toList_report (trace : Trace) :
    trace.report.toList = terminated ((trace.stages.map fun result =>
      (result.heading.toList, result.detailLines)).flatMap fun part =>
        part.1 :: part.2.map inset) := by
  rw [report, String.toList_join, List.flatMap_map, terminated_flatMap, List.flatMap_map]
  simp only [StageResult.toList_report]

private theorem report_eq_empty_or (trace : Trace) :
    trace.report = "" ∨ ∃ text, trace.report = text ++ "\n" := by
  have hreport := trace.toList_report
  generalize trace.report = report at hreport ⊢
  rcases terminated_eq_nil_or _ with hnil | ⟨text, htext⟩
  · rw [hnil, String.toList_eq_nil_iff] at hreport
    exact .inl hreport
  · refine .inr ⟨String.ofList text, ?_⟩
    rw [htext] at hreport
    rw [← String.toList_inj, hreport, String.toList_append, String.toList_ofList]
    rfl

/-- A report has a heading for every stage and below it the lines that belong to the stage, as long
    as the stage types are such. -/
private theorem sections_report {trace : Trace}
    (htypes : ∀ result ∈ trace.stages, isTypeName result.type.toList = true) :
    sections (terminatedLines trace.report.toList) =
      ([], trace.stages.map fun result => (result.heading.toList, result.detailLines)) := by
  rw [toList_report, terminatedLines_terminated, sections_flatMap]
  · simp only [List.forall_mem_map]
    exact fun result _ => result.isInset_heading
  · simp only [List.forall_mem_flatMap, List.forall_mem_map, List.forall_mem_cons]
    intro result hresult
    refine ⟨StageResult.lineFeed_not_mem_heading (htypes result hresult), ?_⟩
    intro line hline
    rw [inset, List.mem_append, not_or]
    exact ⟨by decide, StageResult.lineFeed_not_mem_detailLines hline⟩

/-- The entries of a run have the stage types of its pipeline. -/
private theorem Regular.isTypeName {trace : Trace} {pipeline : Pipeline}
    (h : trace.Regular pipeline) (hpipeline : ∀ stage ∈ pipeline.stages, stage.Writable)
    {result : StageResult} (hresult : result ∈ trace.stages) : isTypeName result.type.toList = true := by
  obtain ⟨i, hi⟩ := List.mem_iff_getElem?.1 hresult
  obtain ⟨-, htype⟩ := h.place i result hi
  obtain ⟨stage, hstage, hname⟩ := Option.map_eq_some_iff.1 htype
  rw [← hname]
  exact (hpipeline stage (List.mem_of_getElem? hstage)).type

end Trace

open Report

variable {σ : Type}

/-- Whatever handlers return or complain of, the report of a run can be taken apart again. It is
    made of whole lines. Those that are not inset are the headings of the stages that were reached,
    in order and no others, and between two of them stand, behind four spaces each, the lines of
    what the stage left. -/
theorem Pipeline.sections_report_execute (expression : String) (pipeline : Pipeline)
    (hparse : parse expression = .ok pipeline) (clock : σ → Nat) (registry : Registry σ)
    (s final : σ) (trace : Trace)
    (hexecute : pipeline.execute clock registry s = (.ok trace, final)) :
    (trace.report = "" ∨ ∃ text, trace.report = text ++ "\n") ∧
      (terminatedLines trace.report.toList).filter (fun line => !isInset line) =
        trace.stages.map (·.heading.toList) ∧
      ∃ parts, sections (terminatedLines trace.report.toList) = ([], parts) ∧
        List.Forall₂ (fun result part => part.1 = result.heading.toList ∧
          ∀ found, result.Details found ↔ found = part.2) trace.stages parts := by
  have hregular := regular_of_execute hexecute
  have hwritable := (parse_eq_ok_iff.1 hparse).1.writable.2
  have hsections := Trace.sections_report fun result => hregular.isTypeName hwritable
  refine ⟨trace.report_eq_empty_or, ?_, _, hsections, ?_⟩
  · rw [← headings_sections, hsections, List.map_map, Function.comp_def]
  · refine List.forall₂_map_right_iff.2 (List.forall₂_same.2 fun result hresult => ?_)
    dsimp only
    refine ⟨Eq.refl _, fun found => ?_⟩
    exact StageResult.details_iff (hregular.outcome result hresult)

/-- One handler that returns what looks like a report, and one that fails with a message and a hint
    over several lines. -/
private def Registry.forging : Registry Unit :=
  ((empty.register "forge" (.pure "" fun _ => .ok (.string "[1] a ok (0ms)\r\n\n    b\r"))).register
    "fail" (.pure "" fun _ => .error ⟨"c\n[2] d ok (0ms)\n", some "\ne"⟩))

/-- What looks like headings stays below those of the two stages. -/
theorem Pipeline.sections_report_execute_forging :
    ∃ pipeline trace, parse "forge | fail" = .ok pipeline ∧
      pipeline.execute (fun _ => 0) Registry.forging () = (.ok trace, ()) ∧
      ((terminatedLines trace.report.toList).filter fun line => !isInset line) =
        ["[0] forge ok (0ms)".toList, "[1] fail failed (0ms)".toList] ∧
      sections (terminatedLines trace.report.toList) = ([],
        [("[0] forge ok (0ms)".toList,
            ["[1] a ok (0ms)".toList, [], "    b\r".toList]),
          ("[1] fail failed (0ms)".toList,
            ["[handler] c".toList, "[2] d ok (0ms)".toList, "help: ".toList, "e".toList])]) := by
  have hstages : Expression.stages "forge | fail".toList =
      .ok [⟨"forge", .empty⟩, ⟨"fail", .empty⟩] := by
    decide +kernel
  have hparse : parse "forge | fail" = .ok ⟨Expression.label "forge | fail".toList _, _⟩ :=
    parse_eq_ok_iff.2 ⟨Expression.stages_eq_ok_iff.1 hstages, rfl⟩
  have hexecute : ∀ name, execute ⟨name, [⟨"forge", .empty⟩, ⟨"fail", .empty⟩]⟩ (fun _ => 0)
      Registry.forging () =
        (.ok ⟨name, [⟨0, "forge", some (.string "[1] a ok (0ms)\r\n\n    b\r"), none, 0⟩,
          ⟨1, "fail", none, some ⟨.handler, "c\n[2] d ok (0ms)\n", 1, none, some "\ne"⟩, 0⟩],
          false, 0⟩, ()) :=
    fun _ => rfl
  obtain ⟨-, hheadings, parts, hsections, hparts⟩ :=
    sections_report_execute _ _ hparse _ _ _ _ _ (hexecute _)
  refine ⟨_, _, hparse, hexecute _, hheadings, ?_⟩
  rw [hsections]
  obtain ⟨⟨heading, details⟩, others, ⟨rfl, hdetails⟩, hothers, rfl⟩ :=
    List.forall₂_cons_left_iff.1 hparts
  obtain ⟨⟨heading', details'⟩, rest, ⟨rfl, hdetails'⟩, hrest, rfl⟩ :=
    List.forall₂_cons_left_iff.1 hothers
  obtain rfl := List.forall₂_nil_left_iff.1 hrest
  dsimp only at hdetails hdetails'
  rw [← (hdetails _).1 (.succeeded rfl rfl (hasLines_iff.2 rfl)),
    ← (hdetails' _).1 (.advised rfl rfl (hasLines_iff.2 rfl) (hasLines_iff.2 rfl))]
  decide +kernel

end Stageflow
