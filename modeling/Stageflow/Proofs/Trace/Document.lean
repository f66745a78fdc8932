import Stageflow.Proofs.Json.Record
import Stageflow.Report
import Stageflow.Trace.Document

namespace Stageflow

open Json (Document)

/-- A value as a member that may be null: null is no value. -/
def Json.present? : Json → Option Json
  | .null => none
  | v => some v

namespace FailureKind

/-- The names of the kinds are distinct, so that each is found by its name. -/
theorem ofName?_name (kind : FailureKind) : ofName? kind.name = some kind := by
  cases kind <;> rfl

end FailureKind

namespace StageError

theorem exact_toDocument {error : StageError} (h : error.stageIndex < Nat.pow 2 64) :
    error.toDocument.Exact := by
  refine .object ?_
  intro member hmember
  simp only [List.mem_append, List.mem_cons, List.not_mem_nil, or_false, List.mem_map] at hmember
  rcases hmember with ((rfl | rfl | rfl) | ⟨text, -, rfl⟩) | ⟨text, -, rfl⟩
  · exact .string
  · exact .string
  · exact Document.exact_natCast h
  · exact .string
  · exact .string

theorem ofDocument?_toDocument {error : StageError} (h : error.stageIndex < Nat.pow 2 64) :
    ofDocument? error.toDocument = some error := by
  obtain ⟨kind, message, stageIndex, reference, help⟩ := error
  have hindex := Document.natural?_natCast h
  dsimp only at hindex
  cases reference <;> cases help <;>
    simp [ofDocument?, toDocument, Document.record?, lookup, Document.alternative?,
      Document.string?, Document.optional?, kind.ofName?_name, hindex]

end StageError

namespace StageResult

/-- A result as the program holds it: its numbers fit 64 bits, and its output can be written and
    read back exactly. -/
structure Exact (result : StageResult) : Prop where
  index : result.index < Nat.pow 2 64
  durationMs : result.durationMs < Nat.pow 2 64
  stageIndex : ∀ error, result.error = some error → error.stageIndex < Nat.pow 2 64
  output : ∀ output, result.output = some output → output.Exact

/-- The same result with an output that is null taken for none. -/
def withoutNull (result : StageResult) : StageResult :=
  { result with output := result.output.bind Json.present? }

theorem Exact.exact_toDocument {result : StageResult} (h : result.Exact) :
    result.toDocument.Exact := by
  refine .object ?_
  intro member hmember
  simp only [List.mem_append, List.mem_cons, List.not_mem_nil, or_false, List.mem_map,
    Option.mem_toList] at hmember
  rcases hmember with ((rfl | rfl | rfl) | ⟨error, herror, rfl⟩) | rfl
  · exact Document.exact_natCast h.index
  · exact .string
  · cases houtput : result.output with
    | none => exact .null
    | some output => exact (h.output output houtput).exact_toDocument
  · exact StageError.exact_toDocument (h.stageIndex error herror)
  · exact Document.exact_natCast h.durationMs

/-- An output that is neither too deep nor null is read back. -/
theorem optional?_output {output : Option Json} (hexact : ∀ v, output = some v → v.Exact)
    (hdepth : ∀ v, output = some v → v.toDocument.depth ≤ 124) :
    Document.optional? outputOfDocument? (some ((output.map Json.toDocument).getD .null)) =
      some (output.bind Json.present?) := by
  cases output with
  | none => rfl
  | some v =>
    have hread : outputOfDocument? v.toDocument = some v := by
      have hreadable := (hexact v rfl).exact_toDocument.isReadable
      have hshallow := hdepth v rfl
      simp only [outputOfDocument?, hreadable, hshallow, decide_true, Bool.and_self, if_true,
        (hexact v rfl).value_toDocument]
    cases v with
    | null => rfl
    | _ => exact Document.optional?_of_eq_some hread (by simp [Json.toDocument])

theorem Exact.ofDocument?_toDocument {result : StageResult} (h : result.Exact)
    (hdepth : ∀ output, result.output = some output → output.toDocument.depth ≤ 124) :
    ofDocument? result.toDocument = some result.withoutNull := by
  have hindex := Document.natural?_natCast h.index
  have hduration := Document.natural?_natCast h.durationMs
  have houtput := optional?_output h.output hdepth
  have herrors := h.stageIndex
  obtain ⟨index, type, output, error, durationMs⟩ := result
  dsimp only at hindex hduration houtput herrors
  cases error with
  | none =>
    simp [ofDocument?, toDocument, Document.record?, lookup, Document.string?, hindex, hduration,
      houtput, Document.optional?_none, withoutNull]
  | some error =>
    have herror := StageError.ofDocument?_toDocument (herrors error rfl)
    have hsome := Document.optional?_of_eq_some herror (by simp [StageError.toDocument])
    simp [ofDocument?, toDocument, Document.record?, lookup, Document.string?, hindex, hduration,
      houtput, hsome, withoutNull]

end StageResult

namespace Trace

/-- A trace as the program holds it. -/
structure Exact (trace : Trace) : Prop where
  durationMs : trace.durationMs < Nat.pow 2 64
  stages : ∀ result ∈ trace.stages, result.Exact

/-- The same trace with outputs that are null taken for none. -/
def withoutNulls (trace : Trace) : Trace :=
  { trace with stages := trace.stages.map StageResult.withoutNull }

theorem Exact.exact_toDocument {trace : Trace} (h : trace.Exact) : trace.toDocument.Exact := by
  have hstages : (Document.array (trace.stages.map StageResult.toDocument)).Exact :=
    .array (List.forall_mem_map.2 fun result hresult => (h.stages result hresult).exact_toDocument)
  exact .object
    (by simp [Document.Exact.string, Document.Exact.bool, hstages,
      Document.exact_natCast h.durationMs])

/-- Three levels of a trace surround every output. -/
theorem depth_output_le {trace : Trace} (depth : Nat) (hdepth : trace.toDocument.depth ≤ depth + 3)
    {result : StageResult} (hresult : result ∈ trace.stages) {output : Json}
    (houtput : result.output = some output) : output.toDocument.depth ≤ depth := by
  have hmember : ("output", output.toDocument) ∈
      [("index", Document.number (.integer result.index)), ("type", .string result.type),
          ("output", (result.output.map Json.toDocument).getD .null)] ++
        (result.error.toList.map fun error => ("error", error.toDocument)) ++
        [("duration_ms", .number (.integer result.durationMs))] := by
    simp [houtput]
  have houtputDepth := Document.depth_le_membersDepth hmember
  have hmap : result.toDocument ∈ trace.stages.map StageResult.toDocument :=
    List.mem_map_of_mem hresult
  have hstages := Document.depth_le_listDepth hmap
  have htrace : ("stages", Document.array (trace.stages.map StageResult.toDocument)) ∈
      [("pipeline", Document.string trace.pipeline),
        ("stages", .array (trace.stages.map StageResult.toDocument)),
        ("succeeded", .bool trace.succeeded),
        ("duration_ms", .number (.integer trace.durationMs))] := by
    simp
  have htraceDepth := Document.depth_le_membersDepth htrace
  rw [Document.depth] at htraceDepth
  rw [StageResult.toDocument, Document.depth] at hstages
  rw [toDocument, Document.depth] at hdepth
  dsimp only at houtputDepth
  omega

theorem Exact.ofDocument?_toDocument {trace : Trace} (h : trace.Exact)
    (hdepth : trace.toDocument.depth ≤ 127) :
    ofDocument? trace.toDocument = some trace.withoutNulls := by
  have hstages : (trace.stages.map StageResult.toDocument).mapM StageResult.ofDocument? =
      some (trace.stages.map StageResult.withoutNull) :=
    mapM_map_of_forall StageResult.withoutNull fun result hresult =>
      (h.stages result hresult).ofDocument?_toDocument fun output =>
        depth_output_le 124 hdepth hresult
  have hduration := Document.natural?_natCast h.durationMs
  simp [ofDocument?, toDocument, Document.record?, lookup, Document.string?, Document.items?,
    Document.bool?, hstages, hduration, withoutNulls]

/-! Null in place of none shows nowhere but in the final output. -/

theorem failure?_withoutNulls (trace : Trace) : trace.withoutNulls.failure? = trace.failure? :=
  List.findSome?_map

theorem error?_withoutNulls (trace : Trace) : trace.withoutNulls.error? = trace.error? :=
  List.findSome?_map

theorem report_withoutNull (result : StageResult) : result.withoutNull.report = result.report := by
  obtain ⟨index, type, output, error, durationMs⟩ := result
  cases error with
  | some error => rfl
  | none =>
    rcases output with _ | (_ | _)
    all_goals rfl

theorem report_withoutNulls (trace : Trace) : trace.withoutNulls.report = trace.report := by
  rw [report, withoutNulls, List.map_map]
  exact congrArg String.join (List.map_congr_left fun result _ => report_withoutNull result)

theorem finalOutput?_withoutNulls (trace : Trace) :
    trace.withoutNulls.finalOutput? = trace.finalOutput?.bind Json.present? := by
  rw [finalOutput?, finalOutput?]
  cases hsucceeded : trace.succeeded with
  | false => simp [withoutNulls, hsucceeded]
  | true =>
    simp only [withoutNulls, hsucceeded, if_true, List.getLast?_map, Option.bind_map,
      Option.bind_assoc]
    rfl

/-- Reading a trace from its JSON text gives it back, but for outputs that are null, which come
    back as none. All that is asked of a trace has the same answer afterwards: whether it
    succeeded, its failure, its report and the failure of its result. Only a final output that is
    null is none. -/
theorem ofJsonText?_eq_withoutNulls (trace : Trace) (hexact : trace.Exact)
    (hdepth : trace.toDocument.depth ≤ 127) :
    ∃ reread, ofJsonText? trace.toJsonText = some reread ∧ reread = trace.withoutNulls ∧
      reread.succeeded = trace.succeeded ∧ reread.failure? = trace.failure? ∧
      reread.report = trace.report ∧
      (∀ failure, reread.toResult = .error failure ↔ trace.toResult = .error failure) ∧
      reread.finalOutput? = trace.finalOutput?.bind Json.present? := by
  refine ⟨trace.withoutNulls, ?_, rfl, rfl, trace.failure?_withoutNulls, trace.report_withoutNulls,
    ?_, trace.finalOutput?_withoutNulls⟩
  · rw [ofJsonText?, toJsonText, hexact.exact_toDocument.parse?_pretty, Option.bind_some,
      hexact.ofDocument?_toDocument hdepth]
  · intro failure
    rw [toResult, toResult, error?_withoutNulls]
    cases trace.error? <;> simp

/-- The least number of 64 bits, and a text of two lines. -/
def leastAndLines : Json :=
  .array [.number (.integer (-9223372036854775808)), .string "a\nb"]

/-- A trace with two outputs, the last of which is null. -/
def nulled : Trace :=
  ⟨"json|get", [⟨0, "json", some leastAndLines, none, 2⟩, ⟨1, "get", some .null, none, 1⟩], true, 3⟩

theorem ofJsonText?_eq_withoutNulls_nulled :
    nulled.Exact ∧ nulled.toDocument.depth ≤ 127 ∧
      ∃ reread, ofJsonText? nulled.toJsonText = some reread ∧ reread.report = nulled.report ∧
        nulled.finalOutput? = some .null ∧ reread.finalOutput? = none := by
  have houtput : leastAndLines.Exact :=
    .array (List.forall_mem_cons.2 ⟨.integer (by decide), List.forall_mem_singleton.2 .string⟩)
  have hfirst : (StageResult.mk 0 "json" (some leastAndLines) none 2).Exact :=
    ⟨by decide, by decide, by simp, by simpa using houtput⟩
  have hlast : (StageResult.mk 1 "get" (some .null) none 1).Exact :=
    ⟨by decide, by decide, by simp, by simpa using .null⟩
  have hexact : nulled.Exact :=
    ⟨by decide, List.forall_mem_cons.2 ⟨hfirst, List.forall_mem_singleton.2 hlast⟩⟩
  have hdepth : nulled.toDocument.depth ≤ 127 := by decide
  obtain ⟨reread, hread, -, -, -, hreport, -, hfinal⟩ :=
    ofJsonText?_eq_withoutNulls nulled hexact hdepth
  exact ⟨hexact, hdepth, reread, hread, hreport, rfl, hfinal⟩

end Trace

end Stageflow
