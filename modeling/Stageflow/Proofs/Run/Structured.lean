import Stageflow.Handler.Value
import Stageflow.Proofs.Json.Printing
import Stageflow.Proofs.Outputs.Substitution
import Stageflow.Proofs.Run.Attempt

namespace Stageflow

open Placeholder

theorem Json.insertionText_of_structured {v : Json} (hnull : v ≠ .null)
    (hstring : ∀ s, v ≠ .string s) : v.insertionText = v.compact := by
  cases v with
  | null => exact absurd rfl hnull
  | string s => exact absurd rfl (hstring s)
  | _ => rfl

namespace Placeholder

/-- A text that is one placeholder, and nothing else. -/
theorem Written.pieces_eq {type text : String} (h : Written type.toList text.toList) :
    pieces text = [.reference type.toList] := by
  have hpieces := piecesFrom_written h []
  rw [List.append_nil] at hpieces
  exact hpieces

theorem Written.references_eq {type text : String} (h : Written type.toList text.toList) :
    references text = [type] := by
  rw [references_eq_filterMap, h.pieces_eq]
  simp [Piece.reference?]

theorem Written.substitute_eq {type text : String} (h : Written type.toList text.toList)
    {output? : String → Option Json} {output : Json} (houtput : output? type = some output) :
    substitute output? text = output.insertionText := by
  rw [substitute, h.pieces_eq]
  simp [Piece.written, houtput]

end Placeholder

theorem Handler.invoke_json {σ : Type} {options : Options} {text : String} {v : Json}
    (htext : options.get? "value" = some (.text text)) (hparse : Json.parse text = .ok v) (s : σ) :
    (json : Handler σ).invoke options s = (.ok v, s) := by
  have hrequire : options.requireText "value" = .ok text := by
    rw [Options.requireText, Options.text?, htext]
    rfl
  simp only [json, pure, hrequire, hparse]

variable {σ : Type}

/-- An output that is neither a text nor nothing survives a placeholder: a stage that reads it as
    JSON returns it again. It is printed so that the reader finds every part of it, and what its
    texts and names contain is not looked through for placeholders. If the stage has other options
    at all, what these refer to has to be recorded too. -/
theorem Pipeline.runStage_json_of_placeholder (registry : Registry σ) (index : Nat) (stage : Stage)
    (outputs : Outputs) (s : σ) (type placeholder : String) (v : Json)
    (hhandler : registry.get? stage.type = some .json)
    (hvalue : stage.options.get? "value" = some (.text placeholder))
    (hplaceholder : Written type.toList placeholder.toList)
    (hothers : ∀ name text, name ≠ "value" → stage.options.get? name = some (.text text) →
      ∀ other ∈ references text, outputs.contains other = true)
    (houtput : outputs.get? type = some v) (hnull : v ≠ .null) (hstring : ∀ text, v ≠ .string text)
    (hexact : v.Exact) (hdepth : v.toDocument.depth ≤ 127) :
    runStage registry index stage outputs s = (.ok v, s) := by
  have hmissing : missing? outputs.get? stage.options = none := by
    rw [missing?_eq_none_iff]
    intro name text htext other hother
    by_cases hname : name = "value"
    · rw [hname, hvalue, Option.some.injEq, OptionValue.text.injEq] at htext
      rw [← htext, hplaceholder.references_eq, List.mem_singleton] at hother
      rw [hother, Table.contains, houtput]
      rfl
    · exact hothers name text hname htext other hother
  have hresolve := Outputs.resolve_eq_ok_iff.2 ⟨hmissing, rfl⟩
  have hresolved : (stage.options.substitute outputs.get?).get? "value" =
      some (.text v.compact) := by
    rw [Options.get?_substitute, hvalue, Option.map_some, OptionValue.substitute,
      hplaceholder.substitute_eq houtput, Json.insertionText_of_structured hnull hstring]
  have hinvoke := Handler.invoke_json hresolved (hexact.parse_compact hdepth) s
  simp only [runStage, Registry.resolve_of_get? hhandler, hresolve, hinvoke]

/-- A name and a text that look like placeholders and ends of texts, next to the least integer. -/
private def Json.awkward : Json :=
  .object [("\"\x7b\x7bjson\x7d\x7d\n",
    .array [.string "\x7d\x7d\x01\\\x7b\x7b t \x7d\x7d\"", .null,
      .number (.integer (-9223372036854775808))])]

/-- Such a value is returned as it is through a placeholder with blanks in it. -/
theorem Pipeline.runStage_json_of_placeholder_awkward :
    Json.awkward.Exact ∧ Json.awkward.toDocument.depth = 2 ∧
      Written "t".toList "\x7b\x7b \u00a0t\n\x7d\x7d".toList ∧
      runStage (Registry.empty.register "json" (.json : Handler Unit)) 1
          ⟨"json", .ofList [("value", .text "\x7b\x7b \u00a0t\n\x7d\x7d")]⟩
          (Table.empty.insert "t" Json.awkward) () =
        (.ok Json.awkward, ()) := by
  have hexact : Json.awkward.Exact := by
    refine .object (List.pairwise_singleton _ _) ?_
    rw [List.forall_mem_singleton]
    refine .array ?_
    simp only [List.forall_mem_cons, List.not_mem_nil, false_imp_iff, implies_true, and_true]
    exact ⟨.string, .null, .integer (by decide)⟩
  have hwritten : Written "t".toList "\x7b\x7b \u00a0t\n\x7d\x7d".toList :=
    @Written.mk [' ', '\u00a0'] ['t'] ['\n'] (List.all_eq_true.1 (by decide)) (by decide)
      (List.all_eq_true.1 (by decide))
  refine ⟨hexact, rfl, hwritten, ?_⟩
  refine runStage_json_of_placeholder _ _ _ _ _ "t" _ _ rfl rfl hwritten ?_ rfl ?_ ?_ hexact
    (by decide)
  · intro name text hname htext
    have hother := Options.get?_insert .empty "value" name (.text "\x7b\x7b \u00a0t\n\x7d\x7d")
    rw [if_neg hname] at hother
    cases hother.symm.trans htext
  · intro h
    cases h
  · intro text h
    cases h

end Stageflow
