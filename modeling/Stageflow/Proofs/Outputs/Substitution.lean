import Stageflow.Proofs.Options.Merge
import Stageflow.Proofs.Outputs.Resolve

namespace Stageflow

namespace Placeholder

/-- The text that parts become, with the literal text behind them, when every placeholder stands
    for an output. -/
inductive Filled (output? : String → Option Json) : List Part → List Char → List Char → Prop where
  | last {literal : List Char} : Filled output? [] literal literal
  | next {literal last filled : List Char} {name : String} {output : Json} {parts : List Part}
      (houtput : output? name = some output) (hrest : Filled output? parts last filled) :
      Filled output? (⟨literal, name⟩ :: parts) last
        (literal ++ (output.insertionText.toList ++ filled))

private theorem filterMap_reference?_literal (cs : List Char) :
    (cs.map Piece.literal).filterMap Piece.reference? = [] := by
  induction cs with
  | nil => rfl
  | cons c cs ih => exact ih

private theorem flatMap_written_literal (output? : String → Option Json) (cs : List Char) :
    (cs.map Piece.literal).flatMap (Piece.written output?) = cs := by
  induction cs with
  | nil => rfl
  | cons c cs ih => exact congrArg (c :: ·) ih

/-- The stage types that a text names are those of its parts. -/
theorem TakenApart.filterMap_reference? {cs last : List Char} {parts : List Part}
    (h : TakenApart cs parts last) :
    (piecesFrom 0 cs).filterMap Piece.reference? = parts.map (·.name) := by
  induction h with
  | last hfree =>
    rw [piecesFrom_of_free hfree, filterMap_reference?_literal]
    rfl
  | next hfree hwritten _ ih =>
    rw [piecesFrom_free hfree, piecesFrom_written hwritten, List.filterMap_append,
      filterMap_reference?_literal, List.nil_append, List.filterMap_cons_some (by rfl), ih]
    rfl

theorem TakenApart.references_eq {text : String} {last : List Char} {parts : List Part}
    (h : TakenApart text.toList parts last) : references text = parts.map (·.name) :=
  h.filterMap_reference?

/-- Outputs take the places of the placeholders, and nothing else of a text changes. -/
theorem TakenApart.filled {output? : String → Option Json} {cs last : List Char}
    {parts : List Part} (h : TakenApart cs parts last)
    (hrecorded : ∀ part ∈ parts, (output? part.name).isSome = true) :
    Filled output? parts last ((piecesFrom 0 cs).flatMap (Piece.written output?)) := by
  induction h with
  | last hfree =>
    rw [piecesFrom_of_free hfree, flatMap_written_literal]
    exact .last
  | @next literal written name rest last parts hfree hwritten _ ih =>
    rw [List.forall_mem_cons] at hrecorded
    obtain ⟨output, houtput⟩ := Option.isSome_iff_exists.1 hrecorded.1
    have hname : Piece.written output? (.reference name) = output.insertionText.toList := by
      rw [Piece.written, houtput, Option.elim_some]
    rw [piecesFrom_free hfree, piecesFrom_written hwritten, List.flatMap_append,
      flatMap_written_literal, List.flatMap_cons, hname]
    exact .next houtput (ih hrecorded.2)

/-- A text whose placeholders all stand for outputs is filled at its own placeholders. -/
theorem exists_filled_substitute {output? : String → Option Json} {text : String}
    (hrecorded : ∀ type ∈ references text, (output? type).isSome = true) :
    ∃ parts last, TakenApart text.toList parts last ∧
      Filled output? parts last (substitute output? text).toList := by
  obtain ⟨parts, last, hparts⟩ := exists_takenApart text.toList
  refine ⟨parts, last, hparts, ?_⟩
  rw [substitute, String.toList_ofList]
  apply hparts.filled
  intro part hpart
  apply hrecorded
  rw [hparts.references_eq]
  exact List.mem_map_of_mem hpart

theorem mem_optionReferences {options : Options} {type : String} :
    type ∈ optionReferences options ↔
      ∃ name text, options.get? name = some (.text text) ∧ type ∈ references text := by
  simp only [Options.get?, lookup_eq_some_iff_mem options.nodup]
  rw [optionReferences, List.mem_flatMap]
  constructor
  · rintro ⟨text, htext, htype⟩
    obtain ⟨⟨name, value⟩, hentry, hvalue⟩ := List.mem_filterMap.1 htext
    cases value with
    | flag b => cases hvalue
    | text s =>
      cases hvalue
      exact ⟨name, text, hentry, htype⟩
  · rintro ⟨name, text, hentry, htype⟩
    exact ⟨text, List.mem_filterMap.2 ⟨_, hentry, rfl⟩, htype⟩

theorem missing?_eq_none_iff {outputs : Outputs} {options : Options} :
    missing? outputs.get? options = none ↔
      ∀ name text, options.get? name = some (.text text) →
        ∀ type ∈ references text, outputs.contains type = true := by
  rw [missing?, List.find?_eq_none]
  simp only [mem_optionReferences, Table.contains, Bool.not_eq_true, Option.isNone_eq_false_iff]
  constructor
  · intro h name text htext type htype
    exact h type ⟨name, text, htext, htype⟩
  · rintro h type ⟨name, text, htext, htype⟩
    exact h name text htext type htype

end Placeholder

theorem Options.get?_substitute (options : Options) (output? : String → Option Json)
    (name : String) :
    (options.substitute output?).get? name =
      (options.get? name).map (OptionValue.substitute output?) :=
  lookup_map (fun _ => OptionValue.substitute output?) name options.entries

namespace Outputs

open Placeholder

theorem resolve_eq_ok_iff {outputs : Outputs} {options resolved : Options} :
    outputs.resolve options = .ok resolved ↔
      missing? outputs.get? options = none ∧ options.substitute outputs.get? = resolved := by
  rw [resolve_eq]
  cases missing? outputs.get? options <;> simp

theorem resolve_eq_error_iff {outputs : Outputs} {options : Options} {reference : String} :
    outputs.resolve options = .error reference ↔
      missing? outputs.get? options = some reference := by
  rw [resolve_eq]
  cases missing? outputs.get? options <;> simp

/-- The options of a stage can be resolved if every placeholder names a recorded stage type, and
    else fail at the first that does not, in the order of the options and from left to right. What
    they resolve to has the same names in the same order; flags stay, and a text keeps its literal
    parts around the outputs of its placeholders. The parts are those of the text before outputs
    are put in, so that no placeholder can come from an output. Looking for a placeholder first
    makes no difference to any text. -/
theorem resolve_exact (outputs : Outputs) (options : Options) :
    (∀ text : String, ∃ parts last, TakenApart text.toList parts last ∧
      (∀ parts' last', TakenApart text.toList parts' last' → parts' = parts ∧ last' = last) ∧
      references text = parts.map (·.name)) ∧
    ((∃ resolved, outputs.resolve options = .ok resolved) ↔
      ∀ name text, options.get? name = some (.text text) →
        ∀ type ∈ references text, outputs.contains type = true) ∧
    (∀ resolved, outputs.resolve options = .ok resolved →
      resolved.entries.map (·.1) = options.entries.map (·.1) ∧
      (∀ name b, options.get? name = some (.flag b) → resolved.get? name = some (.flag b)) ∧
      ∀ name text, options.get? name = some (.text text) →
        ∃ filled, resolved.get? name = some (.text filled) ∧
          ∃ parts last, TakenApart text.toList parts last ∧
            Filled outputs.get? parts last filled.toList) ∧
    (∀ reference, outputs.resolve options = .error reference →
      ∃ before after, optionReferences options = before ++ reference :: after ∧
        (∀ type ∈ before, outputs.contains type = true) ∧ outputs.contains reference = false) ∧
    ∀ text : String, (existsIn text.toList = false ↔ Free text.toList []) ∧
      (Free text.toList [] → outputs.resolveText text = .ok text) ∧
      outputs.resolveValue (.text text) = (outputs.resolveText text).map .text := by
  refine ⟨?_, ?_, ?_, ?_, ?_⟩
  · intro text
    obtain ⟨parts, last, hparts⟩ := exists_takenApart text.toList
    exact ⟨parts, last, hparts, fun _ _ => hparts.unique, hparts.references_eq⟩
  · rw [← missing?_eq_none_iff]
    simp only [resolve_eq_ok_iff]
    exact ⟨fun ⟨_, hmissing, _⟩ => hmissing, fun hmissing => ⟨_, hmissing, rfl⟩⟩
  · intro resolved hresolved
    obtain ⟨hmissing, rfl⟩ := resolve_eq_ok_iff.1 hresolved
    refine ⟨List.map_map, ?_, ?_⟩
    · intro name b hflag
      rw [Options.get?_substitute, hflag]
      rfl
    · intro name text htext
      refine ⟨substitute outputs.get? text, ?_, ?_⟩
      · rw [Options.get?_substitute, htext]
        rfl
      · exact exists_filled_substitute (missing?_eq_none_iff.1 hmissing name text htext)
  · intro reference hreference
    rw [resolve_eq_error_iff, missing?, List.find?_eq_some_iff_append] at hreference
    obtain ⟨hnone, before, after, hreferences, hbefore⟩ := hreference
    refine ⟨before, after, hreferences, ?_, ?_⟩
    · intro type htype
      simpa [Table.contains] using hbefore type htype
    · simpa [Table.contains] using hnone
  · intro text
    exact ⟨existsIn_eq_false_iff, resolveText_of_free outputs, resolveValue_text outputs text⟩

/-- A placeholder that an output completes is left as it is. -/
example :
    resolveText (Table.empty.insert "a" (.string "\x7ba\x7d")) "\x7b\x7b\x7ba\x7d\x7d\x7d" =
      .ok "\x7b\x7ba\x7d\x7d" := by
  rfl

end Outputs

end Stageflow
