import Stageflow.Proofs.Expression.Spelling
import Stageflow.Proofs.Text.Lines
import Stageflow.Report

namespace Stageflow

open Text
open Expression (label stages_eq_ok_iff)

/-- A value in a listing: a text between quotes, a flag in parentheses. -/
def OptionValue.listed : OptionValue → String
  | .text s => quoted s
  | .flag b => "(" ++ (OptionValue.flag b).display ++ ")"

/-- An option as an item of a listing. -/
def optionItem (entry : String × OptionValue) : List Char :=
  s!"       --{entry.1} {entry.2.listed}".toList

/-- A stage as an item of a listing, behind its number, and the items for its options. -/
def Stage.items (number : Nat) (stage : Stage) : List (List Char) :=
  s!"  {number}. {stage.type}".toList :: stage.options.entries.map optionItem

/-- What a listing lists: the name of the pipeline, and its stages, numbered from one on, with their
    options. -/
def Pipeline.items (pipeline : Pipeline) : List (List Char) :=
  s!"Pipeline: {pipeline.name}".toList ::
    pipeline.stages.zipIdx.flatMap fun (stage, index) => stage.items (index + 1)

/-! Every item is printed with a line feed behind it. -/

private theorem toList_optionItem (entry : String × OptionValue) :
    optionItem entry =
      "       --".toList ++ (entry.1.toList ++ " ".toList ++ entry.2.listed.toList) := by
  simp only [optionItem, toString, String.toList_append, List.append_assoc]

private theorem toList_optionLine (entry : String × OptionValue) :
    (optionLine entry).toList = optionItem entry ++ "\n".toList := by
  obtain ⟨name, value⟩ := entry
  rw [toList_optionItem]
  cases value with
  | text s => simp only [optionLine, toString, String.toList_append, List.append_assoc]; rfl
  | flag b =>
    have hopen : " (".toList = " ".toList ++ "(".toList := by decide
    have hclose : ")\n".toList = ")".toList ++ "\n".toList := by decide
    simp only [optionLine, toString, OptionValue.listed, String.toList_append, List.append_assoc,
      hopen, hclose]

private theorem Stage.toList_listing (index : Nat) (stage : Stage) :
    (stage.listing index).toList = terminated (stage.items (index + 1)) := by
  have hlisting : stage.listing index =
      s!"  {index + 1}. {stage.type}" ++ "\n" ++
        String.join (stage.options.entries.map optionLine) :=
    rfl
  rw [hlisting, String.toList_append, String.toList_append, String.toList_join, items, terminated,
    List.flatMap_cons, List.flatMap_map, List.flatMap_map, funext toList_optionLine]
  rfl

private theorem Pipeline.toList_listing (pipeline : Pipeline) :
    pipeline.listing.toList = terminated pipeline.items := by
  have hlisting : pipeline.listing =
      s!"Pipeline: {pipeline.name}" ++ "\n" ++ String.join (pipeline.stages.mapIdx Stage.listing) :=
    rfl
  rw [hlisting, String.toList_append, String.toList_append, String.toList_join,
    List.mapIdx_eq_zipIdx_map, List.flatMap_map, items, terminated, List.flatMap_cons,
    ← terminated, terminated_flatMap]
  simp only [Stage.toList_listing]
  rfl

/-! Line feeds in the items. -/

private theorem not_mem_intercalate {α : Type} {a : α} {separator : List α} {parts : List (List α)}
    (hseparator : a ∉ separator) (hparts : ∀ part ∈ parts, a ∉ part) :
    a ∉ separator.intercalate parts := by
  induction parts with
  | nil => simp
  | cons part parts ih =>
    rw [List.forall_mem_cons] at hparts
    cases parts with
    | nil => simpa using hparts.1
    | cons next parts =>
      rw [List.intercalate_cons_cons, List.mem_append, List.mem_append, not_or, not_or]
      exact ⟨⟨hparts.1, hseparator⟩, ih hparts.2⟩

private theorem lineFeed_not_mem_listed (value : OptionValue) : '\n' ∉ value.listed.toList := by
  cases value with
  | text s => exact lineFeed_not_mem_quoted s
  | flag b => cases b <;> decide

private theorem count_optionItem (entry : String × OptionValue) :
    (optionItem entry).count '\n' = entry.1.toList.count '\n' := by
  have hdashes : "       --".toList.count '\n' = 0 := by decide
  have hblank : " ".toList.count '\n' = 0 := by decide
  have hvalue := List.count_eq_zero.2 (lineFeed_not_mem_listed entry.2)
  rw [toList_optionItem, List.count_append, List.count_append, List.count_append, hdashes, hblank,
    hvalue]
  omega

private theorem count_optionItems (entries : List (String × OptionValue)) :
    (entries.map optionItem).flatten.count '\n' =
      (entries.flatMap fun entry => entry.1.toList).count '\n' := by
  induction entries with
  | nil => rfl
  | cons entry entries ih =>
    rw [List.map_cons, List.flatten_cons, List.count_append, count_optionItem, ih,
      List.flatMap_cons, List.count_append]

private theorem Stage.lineFeed_not_mem_heading {stage : Stage}
    (htype : isTypeName stage.type.toList = true) (number : Nat) :
    '\n' ∉ s!"  {number}. {stage.type}".toList := by
  have hheading : s!"  {number}. {stage.type}" = "  " ++ toString number ++ ". " ++ stage.type :=
    rfl
  rw [hheading]
  simp only [String.toList_append, List.mem_append, not_or, lineFeed_not_mem_number,
    Expression.lineFeed_not_mem_of_isTypeName htype, not_false_eq_true, and_true]
  decide

namespace Expression

private theorem lineFeed_not_mem_hexDigits (bytes : List UInt8) :
    '\n' ∉ Blake3.hexDigits bytes := by
  rw [Blake3.hexDigits, List.mem_flatMap]
  rintro ⟨byte, -, hmem⟩
  have hdigit : ∀ digit, '\n' ≠ Nat.digitChar digit := fun digit =>
    (Nat.digitChar_ne '\n' (by decide)).symm
  simp only [List.mem_cons, hdigit, List.not_mem_nil, or_false] at hmem

private theorem lineFeed_not_mem_label (cs : List Char) {stages : List Stage}
    (htypes : ∀ stage ∈ stages, isTypeName stage.type.toList = true) :
    '\n' ∉ (label cs stages).toList := by
  have hjoined : '\n' ∉ ("|".intercalate (stages.map (·.type))).toList := by
    rw [String.toList_intercalate]
    refine not_mem_intercalate (by decide) ?_
    simp only [List.forall_mem_map]
    exact fun stage hstage => lineFeed_not_mem_of_isTypeName (htypes stage hstage)
  rw [label]
  generalize Blake3.hash _ = digest
  rw [String.toList_append, String.toList_append, List.mem_append, List.mem_append, not_or, not_or]
  refine ⟨⟨hjoined, by decide⟩, fun hmem => ?_⟩
  rw [String.toList_ofList] at hmem
  exact lineFeed_not_mem_hexDigits digest (List.mem_of_mem_take hmem)

end Expression

namespace Pipeline

/-- The line feeds that the option names of a pipeline contain. -/
def lineFeedsInNames (pipeline : Pipeline) : Nat :=
  (pipeline.stages.flatMap fun stage =>
    stage.options.entries.flatMap fun entry => entry.1.toList).count '\n'

theorem lineFeedsInNames_eq_zero_iff {pipeline : Pipeline} :
    pipeline.lineFeedsInNames = 0 ↔
      ∀ stage ∈ pipeline.stages, ∀ entry ∈ stage.options.entries, '\n' ∉ entry.1.toList := by
  simp only [lineFeedsInNames, List.count_eq_zero, List.mem_flatMap, not_exists, not_and]

private theorem length_stageItems (stages : List Stage) (index : Nat) :
    ((stages.zipIdx index).flatMap fun (stage, index) => stage.items (index + 1)).length =
      stages.length + (stages.flatMap fun stage => stage.options.entries).length := by
  induction stages generalizing index with
  | nil => rfl
  | cons stage stages ih =>
    rw [List.zipIdx_cons, List.flatMap_cons, List.length_append, ih]
    dsimp only
    rw [Stage.items, List.length_cons, List.length_map, List.length_cons, List.flatMap_cons,
      List.length_append]
    omega

/-- There is an item for the pipeline, for every stage and for every option. -/
theorem length_items (pipeline : Pipeline) :
    pipeline.items.length =
      1 + pipeline.stages.length +
        (pipeline.stages.flatMap fun stage => stage.options.entries).length := by
  rw [items, List.length_cons, length_stageItems]
  omega

/-- The only line feeds in the items of stages are those in option names. -/
private theorem count_stageItems {stages : List Stage}
    (htypes : ∀ stage ∈ stages, isTypeName stage.type.toList = true) (index : Nat) :
    ((stages.zipIdx index).flatMap fun (stage, index) => stage.items (index + 1)).flatten.count
        '\n' =
      (stages.flatMap fun stage =>
        stage.options.entries.flatMap fun entry => entry.1.toList).count '\n' := by
  induction stages generalizing index with
  | nil => rfl
  | cons stage stages ih =>
    rw [List.forall_mem_cons] at htypes
    have hheading := stage.lineFeed_not_mem_heading htypes.1 (index + 1)
    rw [List.zipIdx_cons, List.flatMap_cons, List.flatten_append, List.count_append, ih htypes.2]
    dsimp only
    rw [Stage.items, List.flatten_cons, List.count_append, List.count_eq_zero.2 hheading,
      Nat.zero_add, count_optionItems, List.flatMap_cons, List.count_append]

private theorem count_items {expression : String} {pipeline : Pipeline}
    (hparse : parse expression = .ok pipeline) :
    pipeline.items.flatten.count '\n' = pipeline.lineFeedsInNames := by
  obtain ⟨hwrites, hname⟩ := parse_eq_ok_iff.1 hparse
  have htypes : ∀ stage ∈ pipeline.stages, isTypeName stage.type.toList = true :=
    fun stage hstage => (hwrites.writable.2 stage hstage).type
  have hlabel := Expression.lineFeed_not_mem_label expression.toList htypes
  rw [← hname] at hlabel
  have hheading : '\n' ∉ s!"Pipeline: {pipeline.name}".toList := by
    simp only [toString, String.toList_append, List.mem_append, not_or, hlabel, not_false_eq_true,
      and_true]
    decide
  rw [items, List.flatten_cons, List.count_append, List.count_eq_zero.2 hheading, Nat.zero_add,
    count_stageItems htypes, lineFeedsInNames]

/-- A listing has as many lines as items, and one more for every line feed in an option name. -/
theorem length_lines_listing {expression : String} {pipeline : Pipeline}
    (hparse : parse expression = .ok pipeline) :
    (terminatedLines pipeline.listing.toList).length =
      pipeline.items.length + pipeline.lineFeedsInNames := by
  rw [length_terminatedLines, toList_listing, count_terminated, count_items hparse]

/-- A listing of a pipeline that was read is made of an item for the pipeline, one for every stage
    and one for every option, each with a line feed behind it. Its lines are these items exactly if
    no option name contains a line feed; every line feed in a name adds a line. -/
theorem lines_listing (expression : String) (pipeline : Pipeline)
    (hparse : parse expression = .ok pipeline) :
    pipeline.listing.toList = terminated pipeline.items ∧
      pipeline.items.length =
        1 + pipeline.stages.length +
          (pipeline.stages.flatMap fun stage => stage.options.entries).length ∧
      (terminatedLines pipeline.listing.toList).length =
        pipeline.items.length + pipeline.lineFeedsInNames ∧
      (terminatedLines pipeline.listing.toList = pipeline.items ↔
        ∀ stage ∈ pipeline.stages, ∀ entry ∈ stage.options.entries, '\n' ∉ entry.1.toList) := by
  have hlength := length_lines_listing hparse
  refine ⟨pipeline.toList_listing, pipeline.length_items, hlength, ?_⟩
  rw [← lineFeedsInNames_eq_zero_iff]
  constructor
  · intro hlines
    rw [hlines] at hlength
    omega
  · intro hzero
    have hcount := count_items hparse
    rw [hzero, List.count_eq_zero] at hcount
    rw [toList_listing, terminatedLines_terminated]
    exact fun item hitem hfeed => hcount (List.mem_flatten_of_mem hitem hfeed)

/-- A line feed in a value leaves the option on one line. -/
theorem lines_listing_value :
    ∃ pipeline, parse "a --b 'c\nd' --e | f" = .ok pipeline ∧
      pipeline.items.tail = ["  1. a".toList, "       --b \"c\\nd\"".toList,
        "       --e (true)".toList, "  2. f".toList] ∧
      terminatedLines pipeline.listing.toList = pipeline.items := by
  have hstages : Expression.stages "a --b 'c\nd' --e | f".toList =
      .ok [⟨"a", .ofList [("b", .text "c\nd"), ("e", .flag true)]⟩, ⟨"f", .empty⟩] := by
    decide +kernel
  have hparse : parse "a --b 'c\nd' --e | f" = .ok ⟨label "a --b 'c\nd' --e | f".toList _, _⟩ :=
    parse_eq_ok_iff.2 ⟨stages_eq_ok_iff.1 hstages, rfl⟩
  obtain ⟨-, -, -, hlines⟩ := lines_listing _ _ hparse
  exact ⟨_, hparse, by decide +kernel, hlines.2 (by decide)⟩

/-- A line feed between quotes can be part of an option name. It is printed as it is and makes two
    lines out of one option. -/
theorem lines_listing_broken_name :
    ∃ pipeline, parse "a --x'\n'y" = .ok pipeline ∧ pipeline.stages.length = 1 ∧
      (pipeline.stages.flatMap fun stage => stage.options.entries).length = 1 ∧
      (terminatedLines pipeline.listing.toList).length = 4 := by
  have hstages : Expression.stages "a --x'\n'y".toList =
      .ok [⟨"a", .ofList [("x\ny", .flag true)]⟩] := by
    decide +kernel
  have hparse : parse "a --x'\n'y" = .ok ⟨label "a --x'\n'y".toList _, _⟩ :=
    parse_eq_ok_iff.2 ⟨stages_eq_ok_iff.1 hstages, rfl⟩
  refine ⟨_, hparse, rfl, rfl, ?_⟩
  rw [length_lines_listing hparse, length_items]
  rfl

end Pipeline

end Stageflow
