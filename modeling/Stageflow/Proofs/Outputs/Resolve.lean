import Stageflow.Proofs.Placeholder.Parts

namespace Stageflow

namespace Placeholder

/-- The stage type that a piece names. -/
def Piece.reference? : Piece → Option String
  | .literal _ => none
  | .reference name => some (String.ofList name)

/-- How a piece is written when placeholders stand for outputs. A placeholder without an output is
    written as nothing. -/
def Piece.written (output? : String → Option Json) : Piece → List Char
  | .literal c => [c]
  | .reference name => (output? (String.ofList name)).elim [] (·.insertionText.toList)

/-- A text with every placeholder replaced by the output that it stands for. -/
def substitute (output? : String → Option Json) (text : String) : String :=
  String.ofList ((pieces text).flatMap (Piece.written output?))

theorem references_eq_filterMap (text : String) :
    references text = (pieces text).filterMap Piece.reference? := by
  rfl

/-- The stage types that the placeholders of named option values name. -/
def entryReferences (entries : List (String × OptionValue)) : List String :=
  (entries.filterMap fun entry => entry.2.text?).flatMap references

theorem optionReferences_eq (options : Options) :
    optionReferences options = entryReferences options.entries :=
  rfl

/-- The first placeholder of a stage's options that stands for no output, in the order of the
    options and from left to right. -/
def missing? (output? : String → Option Json) (options : Options) : Option String :=
  (optionReferences options).find? fun type => (output? type).isNone

end Placeholder

/-- Only texts hold placeholders. -/
def OptionValue.substitute (output? : String → Option Json) : OptionValue → OptionValue
  | .text s => .text (Placeholder.substitute output? s)
  | .flag b => .flag b

/-- The options of a stage under the same names, with every placeholder replaced. -/
def Options.substitute (output? : String → Option Json) (options : Options) : Options :=
  ⟨options.entries.map fun entry => (entry.1, entry.2.substitute output?), by
    simpa only [List.map_map, Function.comp_def] using options.nodup⟩

namespace Outputs

open Placeholder

private theorem fill_eq (outputs : Outputs) (pieces : List Piece) :
    fill outputs pieces =
      match (pieces.filterMap Piece.reference?).find? fun type => (outputs.get? type).isNone with
      | some reference => .error reference
      | none => .ok (pieces.flatMap (Piece.written outputs.get?)) := by
  induction pieces with
  | nil => rfl
  | cons piece pieces ih =>
    cases piece with
    | literal c =>
      rw [fill, ih, List.filterMap_cons_none (by rfl)]
      cases (pieces.filterMap Piece.reference?).find? _ <;> rfl
    | reference name =>
      rw [fill, ih, List.filterMap_cons_some (by rfl), List.find?_cons, List.flatMap_cons]
      cases houtput : outputs.get? (String.ofList name) with
      | none => rfl
      | some output =>
        have hwritten : Piece.written outputs.get? (.reference name) =
            output.insertionText.toList := by
          simp [Piece.written, houtput]
        rw [hwritten]
        cases (pieces.filterMap Piece.reference?).find? _ <;> rfl

private theorem resolveText_eq (outputs : Outputs) (text : String) :
    resolveText outputs text =
      match (references text).find? fun type => (outputs.get? type).isNone with
      | some reference => .error reference
      | none => .ok (substitute outputs.get? text) := by
  rw [resolveText, fill_eq, references_eq_filterMap]
  split <;> rfl

private theorem fill_map_literal (outputs : Outputs) (cs : List Char) :
    fill outputs (cs.map .literal) = .ok cs := by
  induction cs with
  | nil => rfl
  | cons c cs ih => rw [List.map_cons, fill, ih]

/-- A text without placeholders comes out of its resolution as it is. -/
theorem resolveText_of_free (outputs : Outputs) {text : String} (h : Free text.toList []) :
    outputs.resolveText text = .ok text := by
  rw [resolveText, pieces, piecesFrom_of_free h, fill_map_literal, Except.map,
    String.ofList_toList]

/-- Looking for a placeholder first makes no difference. -/
theorem resolveValue_text (outputs : Outputs) (text : String) :
    outputs.resolveValue (.text text) = (outputs.resolveText text).map .text := by
  cases hexists : existsIn text.toList with
  | true => rw [resolveValue, if_pos hexists]
  | false =>
    rw [resolveText_of_free outputs (existsIn_eq_false_iff.1 hexists), resolveValue, hexists]
    rfl

private theorem resolveEntries_eq (outputs : Outputs) (entries : List (String × OptionValue)) :
    resolveEntries outputs entries =
      match (entryReferences entries).find? fun type => (outputs.get? type).isNone with
      | some reference => .error reference
      | none => .ok (entries.map fun entry => (entry.1, entry.2.substitute outputs.get?)) := by
  induction entries with
  | nil => rfl
  | cons entry entries ih =>
    obtain ⟨name, value⟩ := entry
    cases value with
    | flag b =>
      have hrefs : entryReferences ((name, .flag b) :: entries) = entryReferences entries := rfl
      rw [resolveEntries, ih, hrefs]
      cases (entryReferences entries).find? _ <;> rfl
    | text s =>
      have hrefs : entryReferences ((name, .text s) :: entries) =
          references s ++ entryReferences entries := rfl
      rw [resolveEntries, ih, hrefs, List.find?_append]
      simp only [resolveValue_text, resolveText_eq]
      cases (references s).find? fun type => (outputs.get? type).isNone with
      | some reference => rfl
      | none =>
        rw [Option.none_or]
        cases (entryReferences entries).find? _ <;> rfl

/-- Resolving options depends on the recorded outputs through lookups only: the first placeholder
    without an output is the error, and without one every placeholder is replaced. -/
theorem resolve_eq (outputs : Outputs) (options : Options) :
    outputs.resolve options =
      match missing? outputs.get? options with
      | some reference => .error reference
      | none => .ok (options.substitute outputs.get?) := by
  have hentries := resolveEntries_eq outputs options.entries
  rw [missing?, optionReferences_eq]
  unfold resolve
  split
  next entries hok =>
    rw [hok] at hentries
    split at hentries
    · cases hentries
    · cases hentries
      rfl
  next reference herror =>
    rw [herror] at hentries
    split at hentries
    · cases hentries
      rfl
    · cases hentries

end Outputs

end Stageflow
