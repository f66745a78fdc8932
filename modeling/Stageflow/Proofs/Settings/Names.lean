import Stageflow.Proofs.Expression.Spelling
import Stageflow.Settings

namespace Stageflow

open Expression

theorem CommandSpec.fault?_eq_none_iff {type : String} {spec : CommandSpec} :
    spec.fault? type = none ↔
      isTypeName type.toList = true ∧ Text.isBlankText spec.program = false ∧
        spec.timeoutSecs ≠ some 0 := by
  rw [CommandSpec.fault?]
  cases isTypeName type.toList with
  | false => simp
  | true =>
    cases Text.isBlankText spec.program with
    | true => simp
    | false =>
      by_cases htimeout : spec.timeoutSecs = some 0
      · simp [htimeout]
      · simp [htimeout]

/-- Settings are accepted if they name a shell and nothing is wrong with any declared program. -/
theorem Settings.validate_eq_ok_iff {settings : Settings} :
    settings.validate = .ok () ↔
      Text.isBlankText settings.shell = false ∧
        ∀ entry ∈ settings.handlers.entries, entry.2.fault? entry.1 = none := by
  rw [← List.findSome?_eq_none_iff, validate, fault?]
  cases Text.isBlankText settings.shell with
  | true => simp
  | false => cases settings.handlers.entries.findSome? _ <;> simp

namespace Expression

/-- A name of the characters of stage types is one word, in which nothing is quoted. -/
theorem wordsAt_of_isTypeName {name : List Char} (h : isTypeName name = true) :
    WordsAt 0 name [⟨name, false, 0⟩] := by
  obtain ⟨hne, hbare⟩ := bare_of_isTypeName h
  have hwords : WordsAt 0 ([] ++ (name ++ [])) [⟨name, false, 0⟩] :=
    .word (by simp) (wordAt_bare hne hbare 0) (by simp [EndsWord]) (.blank (by simp))
  rw [List.nil_append, List.append_nil] at hwords
  exact hwords

end Expression

namespace Pipeline

/-- A name is an expression for a stage of its own type if it has only characters of stage types
    and does not look like an option. -/
theorem exists_parse_name_iff {name : String} :
    (∃ pipeline, parse name = .ok pipeline ∧ pipeline.stages = [⟨name, .empty⟩]) ↔
      isTypeName name.toList = true ∧ ¬ ['-', '-'] <+: name.toList := by
  constructor
  · rintro ⟨pipeline, hparse, hstages⟩
    have hwritten := (parse_eq_ok_iff.1 hparse).1
    rw [hstages] at hwritten
    have hwritable := hwritten.writable.2 _ List.mem_cons_self
    exact ⟨hwritable.type, hwritable.dashes⟩
  · rintro ⟨htype, hdashes⟩
    have hflag : Word.isFlag ⟨name.toList, false, 0⟩ = false := isFlag_bare_eq_false.2 hdashes
    have hstage : StageWords [⟨name.toList, false, 0⟩] ⟨name, .empty⟩ := by
      have hwords := StageWords.mk rfl hflag htype .nil Options.Merges.empty
      rw [String.ofList_toList] at hwords
      exact hwords
    have hwrites : Writes name [⟨name, .empty⟩] := .last (wordsAt_of_isTypeName htype) hstage
    exact ⟨⟨label name.toList _, _⟩, parse_eq_ok_iff.2 ⟨hwrites, rfl⟩, rfl⟩

/-- A name that looks like an option is read as one, and so no stage type is found in front. -/
theorem parse_name_of_dashes {name : String} (htype : isTypeName name.toList = true)
    (hdashes : ['-', '-'] <+: name.toList) :
    parse name = .error (.parse "segment 0 has no stage type" (some 0)) := by
  have hwords := wordsAt_of_isTypeName htype
  have hblank : ¬ name.toList.all Text.isBlank = true := by
    obtain ⟨rest, hrest⟩ := hdashes
    rw [← hrest]
    simp [Text.isBlank]
  have hsplit : split name.toList = .ok [⟨0, name.toList⟩] :=
    split_eq_ok_iff.2 (.last hwords.passes)
  have hflag : Word.isFlag ⟨name.toList, false, 0⟩ = true := by
    rw [Word.isFlag, List.isPrefixOf_iff_prefix.2 hdashes]
    rfl
  have hread : readStages 0 [⟨0, name.toList⟩] = .error (.noStageType 0 0) := by
    simp only [readStages, words_of_wordsAt hwords]
    simp only [bind, Except.bind, readStage, hflag, Bool.or_true, if_true]
  have hstages : Expression.stages name.toList = .error (.noStageType 0 0) := by
    rw [Expression.stages, if_neg hblank, hsplit]
    exact hread
  rw [parse, Expression.parse, hstages]
  rfl

end Pipeline

/-- Which names settings and expressions agree on. Of the names that the settings accept for a
    declared program, exactly those without two dashes in front are expressions for a stage of this
    type without options, and no other name is one. A name with two dashes in front is accepted as
    well, but no expression can begin with it. -/
theorem Settings.validate_name_exact (settings : Settings) (name : String) (spec : CommandSpec)
    (hhandlers : settings.handlers.entries = [(name, spec)])
    (hshell : Text.isBlankText settings.shell = false)
    (hprogram : Text.isBlankText spec.program = false) (htimeout : spec.timeoutSecs ≠ some 0) :
    ((∃ pipeline, Pipeline.parse name = .ok pipeline ∧ pipeline.stages = [⟨name, .empty⟩]) ↔
      settings.validate = .ok () ∧ ¬ ['-', '-'] <+: name.toList) ∧
    (settings.validate = .ok () → ['-', '-'] <+: name.toList →
      Pipeline.parse name = .error (.parse "segment 0 has no stage type" (some 0))) := by
  have hvalidate : settings.validate = .ok () ↔ isTypeName name.toList = true := by
    rw [Settings.validate_eq_ok_iff, hhandlers, List.forall_mem_singleton,
      CommandSpec.fault?_eq_none_iff]
    constructor
    · rintro ⟨-, htype, -⟩
      exact htype
    · intro htype
      exact ⟨hshell, htype, hprogram, htimeout⟩
  rw [hvalidate]
  exact ⟨Pipeline.exists_parse_name_iff, Pipeline.parse_name_of_dashes⟩

/-- Settings that declare one program. -/
def Settings.declaring (name program : String) : Settings :=
  { handlers := Table.empty.insert name { program } }

/-- A single dash inside a name, or in front of it, does not make it an option. -/
theorem Settings.validate_name_exact_dash :
    (declaring "-image-gen" "python3").handlers.entries =
        [("-image-gen", { program := "python3" })] ∧
      Text.isBlankText (declaring "-image-gen" "python3").shell = false ∧
      Text.isBlankText "python3" = false ∧ (none : Option Nat) ≠ some 0 ∧
      (declaring "-image-gen" "python3").validate = .ok () ∧
      ∃ pipeline, Pipeline.parse "-image-gen" = .ok pipeline ∧
        pipeline.stages = [⟨"-image-gen", .empty⟩] := by
  have hentries : (declaring "-image-gen" "python3").handlers.entries =
      [("-image-gen", { program := "python3" })] := by
    decide
  have hvalid : (declaring "-image-gen" "python3").validate = .ok () := by
    rfl
  obtain ⟨hexact, -⟩ := validate_name_exact _ "-image-gen" _ hentries (by decide) (by decide)
    (by decide)
  exact ⟨hentries, by decide, by decide, by decide, hvalid, hexact.2 ⟨hvalid, by decide⟩⟩

/-- The settings accept a name with which no expression can begin. -/
theorem Settings.validate_accepts_option_name :
    (declaring "--x" "x").handlers.entries = [("--x", { program := "x" })] ∧
      (declaring "--x" "x").validate = .ok () ∧
      ¬ ∃ pipeline, Pipeline.parse "--x" = .ok pipeline ∧
        pipeline.stages = [⟨"--x", .empty⟩] := by
  refine ⟨by decide, rfl, ?_⟩
  rw [Pipeline.exists_parse_name_iff]
  decide

end Stageflow
