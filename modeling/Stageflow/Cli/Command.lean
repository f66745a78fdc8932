import Stageflow.Check
import Stageflow.Cli.Arguments
import Stageflow.Cli.Style
import Stageflow.Failure.Advice
import Stageflow.Pipeline.Document
import Stageflow.Report
import Stageflow.Run
import Stageflow.Trace.Document

namespace Stageflow.Cli

open Json (Document)

def line (text : String) : String :=
  text ++ "\n"

/-- A number of things, with their name. -/
def stageCount (n : Nat) : String :=
  s!"{n} stage" ++ if n = 1 then "" else "s"

/-- A time in seconds with two places. -/
def secondsText (milliseconds : Nat) : String :=
  let hundredths := (milliseconds + 5) / 10
  let places := toString (hundredths % 100)
  s!"{hundredths / 100}." ++ (if places.length = 1 then "0" else "") ++ places ++ "s"

namespace Palette

variable (palette : Palette)

def bold (text : String) : String :=
  palette.paint { bold := true } text

def dimmed (text : String) : String :=
  palette.paint { dimmed := true } text

def coloured (colour : Colour) (text : String) : String :=
  palette.paint { colour := some colour } text

def strong (colour : Colour) (text : String) : String :=
  palette.paint { bold := true, colour := some colour } text

def successMark : String :=
  palette.coloured .green "✓"

def errorMark : String :=
  palette.coloured .red "✗"

def warningMark : String :=
  palette.coloured .yellow "⚠"

def noteMark : String :=
  palette.coloured .blue "→"

/-- A list of remarks, each behind a mark. -/
def remarks (mark : String) (texts : List String) : String :=
  String.join (texts.map fun text => line s!"  {mark} {text}")

end Palette

/-! Outcomes. -/

/-- Why a command does not end well. -/
inductive Complaint where
  | failure (failure : Failure)
  /-- A check has found stages without a handler. -/
  | invalidPipeline
  | timedOut (pipeline : String) (seconds : Nat)
  /-- The directory to work in cannot be entered. -/
  | directory (path reason : String)
  | usage (fault : UsageFault)
  deriving DecidableEq, Repr

namespace Complaint

def message : Complaint → String
  | .failure cause => cause.message
  | .invalidPipeline => "Pipeline validation failed"
  | .timedOut pipeline seconds => s!"Pipeline '{pipeline}' timed out after {seconds}s"
  | .directory path reason => s!"Failed to change to directory '{path}': {reason}"
  | .usage fault => fault.message

def exitCode : Complaint → Nat
  | .usage _ => 2
  | _ => 1

end Complaint

/-- What a command prints, what it advises to do about a failure, and how it ends. -/
structure Outcome where
  output : String
  advice : String
  result : Except Complaint Unit
  deriving Repr

namespace Outcome

def done (output : String) : Outcome :=
  ⟨output, "", .ok ()⟩

def failed (output : String) (complaint : Complaint) : Outcome :=
  ⟨output, "", .error complaint⟩

/-- A command that ends because of a failure, with advice that depends on the stage types that are
    available. -/
def advised (palette : Palette) (available : List String) (output : String) (failure : Failure) :
    Outcome :=
  match Advice.ofFailure? failure available with
  | none => .failed output (.failure failure)
  | some advice =>
    ⟨output, line "" ++ line (palette.dimmed advice.text), .error (.failure failure)⟩

def exitCode (outcome : Outcome) : Nat :=
  match outcome.result with
  | .ok () => 0
  | .error complaint => complaint.exitCode

end Outcome

/-! Parsing and listing. -/

/-- Shows how an expression is read. -/
def parse (format : Format) (expression : String) : Outcome :=
  match Pipeline.parse expression with
  | .error failure => .failed "" (.failure failure)
  | .ok pipeline =>
    match format with
    | .text => .done pipeline.listing
    | .json => .done (line pipeline.toJsonText)

/-- A line of characters below a title. -/
def rule (width : Nat) : String :=
  line (String.ofList (List.replicate width '═'))

def listHandlers {σ : Type} (palette : Palette) (format : Format) (registry : Registry σ) : Outcome :=
  let entries := registry.describe
  match format with
  | .json =>
    let objects := entries.map fun (type, description) =>
      Document.object [("description", .string description), ("type", .string type)]
    .done (line (Document.array objects).pretty)
  | .text =>
    let width := (entries.map fun entry => entry.1.utf8ByteSize).foldl max 0
    let row (type description : String) : String :=
      let name := type ++ String.ofList (List.replicate (width - type.length) ' ')
      line s!"  {palette.bold name}  {palette.dimmed description}"
    let title := "Stage types"
    .done
      (line (palette.bold title) ++ rule (max title.length 40) ++
        String.join (entries.map fun entry => row entry.1 entry.2))

/-! Checking. -/

/-- What a check prints before it knows anything. -/
def checkHeader (palette : Palette) : String :=
  line (palette.bold "Checking pipeline...") ++ line ""

/-- A section of remarks, or nothing if there are none. -/
def remarkSection (palette : Palette) (colour : Colour) (title mark : String)
    (texts : List String) : String :=
  if texts.isEmpty then ""
  else line "" ++ line s!"{palette.strong colour title}:" ++ Palette.remarks mark texts

/-- The name and the stages of a pipeline. -/
def summary (palette : Palette) (pipeline : Pipeline) : String :=
  let stages := " | ".intercalate pipeline.types
  let title := palette.bold "Pipeline summary"
  line "" ++ line s!"{title}:" ++
    Palette.remarks palette.noteMark [s!"Name: {pipeline.name}", s!"Stages: {stages}"]

/-- Checks an expression against a registry without running it. Warnings alone do no harm. -/
def check {σ : Type} (palette : Palette) (verbose : Bool) (registry : Registry σ)
    (expression : String) : Outcome :=
  let header := checkHeader palette
  match Pipeline.parse expression with
  | .error failure =>
    .failed
      (header ++ Palette.remarks palette.errorMark ["Expression does not parse"] ++ line "")
      (.failure failure)
  | .ok pipeline =>
    let findings := pipeline.check registry
    let count := stageCount pipeline.stages.length
    let report :=
      header ++ Palette.remarks palette.successMark [s!"Parsed {count}"] ++
        remarkSection palette .red "Errors" palette.errorMark findings.errors ++
        remarkSection palette .yellow "Warnings" palette.warningMark findings.warnings ++
        (if verbose then summary palette pipeline else "") ++ line ""
    if !findings.isValid then .failed report .invalidPipeline
    else if findings.hasWarnings then
      .done (report ++ line (palette.strong .yellow "Pipeline is valid but has warnings."))
    else .done (report ++ line (palette.strong .green "Pipeline is valid!"))

/-! Running. -/

/-- A stage of a plan, with the stage types whose outputs it uses. -/
def plannedStage (palette : Palette) (index : Nat) (stage : Stage) : String :=
  let references := Placeholder.optionReferences stage.options
  let names := ", ".intercalate references
  let uses := if references.isEmpty then "" else " " ++ palette.dimmed s!"[uses: {names}]"
  line (s!"  {index + 1}. {palette.bold stage.type}" ++ uses)

/-- What is printed before the first stage runs. -/
def plan (palette : Palette) (pipeline : Pipeline) : String :=
  let title := palette.bold "Pipeline"
  let count := stageCount pipeline.stages.length
  line "" ++ line s!"{title}: {pipeline.name}" ++ rule 50 ++ line s!"Execution plan ({count}):" ++
    line "" ++ String.join (pipeline.stages.mapIdx (plannedStage palette)) ++ line ""

/-- What is printed when a stage has ended. -/
def progress (palette : Palette) (result : StageResult) : String :=
  let type := palette.bold result.type
  if result.succeeded then
    line s!"  {palette.successMark} {type} ({secondsText result.durationMs})"
  else line s!"  {palette.errorMark} {type} failed"

/-- What is printed when the last stage has ended. -/
def verdict (palette : Palette) (trace : Trace) : String :=
  let seconds := secondsText trace.durationMs
  line "" ++
    line
      (if trace.succeeded then
        palette.coloured .green s!"Pipeline completed successfully in {seconds}"
      else palette.coloured .red s!"Pipeline failed after {seconds}")

/-- What a run leaves for a reader: its output, or all its stages if it failed or if more is wanted. -/
def account (palette : Palette) (verbose : Bool) (trace : Trace) : String :=
  let title (text : String) : String := line "" ++ line (palette.bold text ++ ":")
  if verbose || !trace.succeeded then title "Stages" ++ trace.report
  else
    match trace.finalOutput? with
    | some output => title "Output" ++ line output.insertionText
    | none => ""

/-- The results of the stages that ended within a time. -/
def endedWithin (milliseconds : Nat) : List StageResult → List StageResult
  | [] => []
  | result :: results =>
    if result.durationMs ≤ milliseconds then
      result :: endedWithin (milliseconds - result.durationMs) results
    else []

/-- Whether a run took longer than a number of seconds. -/
def isLate (limit : Option Nat) (trace : Trace) : Bool :=
  limit.any fun seconds => seconds * 1000 < trace.durationMs

/-- What a run prints, with the failure of its stage if one failed. -/
def runOutcome (palette : Palette) (format : Format) (verbose : Bool) (available : List String)
    (pipeline : Pipeline) (trace : Trace) : Outcome :=
  match format with
  | .json =>
    let output := line trace.toJsonText
    match trace.attributedFailure? with
    | none => .done output
    | some failure => .failed output (.failure failure)
  | .text =>
    let output :=
      plan palette pipeline ++ String.join (trace.stages.map (progress palette)) ++
        verdict palette trace ++ account palette verbose trace
    match trace.attributedFailure? with
    | none => .done output
    | some failure => .advised palette available output failure

/-- What a run prints that was stopped after a number of seconds. -/
def stoppedOutcome (palette : Palette) (format : Format) (pipeline : Pipeline) (trace : Trace)
    (seconds : Nat) : Outcome :=
  let output :=
    match format with
    | .json => ""
    | .text =>
      plan palette pipeline ++
        String.join ((endedWithin (seconds * 1000) trace.stages).map (progress palette))
  .failed output (.timedOut pipeline.name seconds)

def run {σ : Type} (palette : Palette) (format : Format) (limit : Option Nat) (verbose : Bool)
    (clock : σ → Nat) (registry : Registry σ) (expression : String) (s : σ) : Outcome × σ :=
  let refuse (failure : Failure) : Outcome :=
    .advised palette registry.types "" failure
  match Pipeline.parse expression with
  | .error failure => (refuse failure, s)
  | .ok pipeline =>
    match pipeline.execute clock registry s with
    | (.error failure, s) => (refuse failure, s)
    | (.ok trace, s) =>
      if isLate limit trace then
        (stoppedOutcome palette format pipeline trace (limit.getD 0), s)
      else (runOutcome palette format verbose registry.types pipeline trace, s)

end Stageflow.Cli
