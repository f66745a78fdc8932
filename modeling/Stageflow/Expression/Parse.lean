import Stageflow.Digest.Blake3
import Stageflow.Expression.Word
import Stageflow.Failure
import Stageflow.Pipeline

namespace Stageflow

/-- The characters of stage types: ASCII letters and digits, underscores, dashes and points. -/
def isTypeChar (c : Char) : Bool :=
  c.isAlphanum || c == '_' || c == '-' || c == '.'

/-- The characters of stage types lie between the dash and the letter z. -/
private theorem toNat_of_isTypeChar {c : Char} (h : isTypeChar c = true) :
    45 ≤ c.toNat ∧ c.toNat ≤ 122 := by
  simp only [isTypeChar, Bool.or_eq_true, beq_iff_eq] at h
  rcases h with ((h | rfl) | rfl) | rfl
  · rcases Bool.or_eq_true_iff.1 h with h | hdigit
    · rcases Bool.or_eq_true_iff.1 h with hupper | hlower
      · obtain ⟨hleast, hgreatest⟩ := of_decide_eq_true hupper
        exact ⟨Nat.le_trans (by decide) hleast, Nat.le_trans hgreatest (by decide)⟩
      · obtain ⟨hleast, hgreatest⟩ := Bool.and_eq_true_iff.1 hlower
        exact ⟨Nat.le_trans (by decide) (of_decide_eq_true hleast),
          Nat.le_trans (of_decide_eq_true hgreatest) (by decide)⟩
    · obtain ⟨hleast, hgreatest⟩ := Char.isDigit_iff_toNat.1 hdigit
      exact ⟨Nat.le_trans (by decide) hleast, Nat.le_trans hgreatest (by decide)⟩
  all_goals decide

theorem isBlank_of_isTypeChar {c : Char} (h : isTypeChar c = true) : Text.isBlank c = false := by
  obtain ⟨hleast, hgreatest⟩ := toNat_of_isTypeChar h
  simp only [Text.isBlank, Bool.or_eq_false_iff, Bool.and_eq_false_iff, decide_eq_false_iff_not,
    beq_eq_false_iff_ne]
  omega

/-- A text that can stand as a stage type. -/
def isTypeName (cs : List Char) : Bool :=
  !cs.isEmpty && cs.all isTypeChar

namespace Expression

/-- A text up to the first equals sign, and what follows that sign if there is one. -/
def splitAtEquals (cs : List Char) : List Char × Option (List Char) :=
  match cs.dropWhile (· != '=') with
  | [] => (cs, none)
  | _ :: value => (cs.takeWhile (· != '='), some value)

/-- Reads the options of a stage. An option takes its value from behind its equals sign, else from
    the next word if that is no option; without a value it is a flag. -/
def readOptions (type : String) (options : Options) : List Word → Except Fault Options
  | [] => .ok options
  | word :: rest =>
    if !word.isFlag then .error (.unexpectedArgument (String.ofList word.text) type word.offset)
    else
      let (name, inline) := splitAtEquals (word.text.drop 2)
      if name.isEmpty then .error (.emptyOptionName type word.offset)
      else
        let name := String.ofList name
        match inline with
        | some value => readOptions type (options.insert name (.text (String.ofList value))) rest
        | none =>
          match rest with
          | [] => readOptions type (options.insert name (.flag true)) []
          | next :: tail =>
            if next.isFlag then readOptions type (options.insert name (.flag true)) (next :: tail)
            else readOptions type (options.insert name (.text (String.ofList next.text))) tail

/-- Reads the words of the segment with the given number that starts at the given byte. -/
def readStage (index offset : Nat) : List Word → Except Fault Stage
  | [] => .error (.noStageType index offset)
  | head :: rest =>
    if head.quoted || head.isFlag then .error (.noStageType index head.offset)
    else if !isTypeName head.text then
      .error (.invalidStageType (String.ofList head.text) index head.offset)
    else
      let type := String.ofList head.text
      (readOptions type .empty rest).map fun options => ⟨type, options⟩

/-- Reads segments, the first of which has the given number. -/
def readStages (index : Nat) : List Segment → Except Fault (List Stage)
  | [] => .ok []
  | segment :: segments => do
    let stage ← readStage index segment.offset (← words segment)
    let stages ← readStages (index + 1) segments
    pure (stage :: stages)

/-- The stages that an expression writes. -/
def stages (cs : List Char) : Except Fault (List Stage) := do
  if cs.all Text.isBlank then throw .blank
  readStages 0 (← split cs)

/-- The label of a pipeline: its stage types, and the start of a hash of the expression without
    the blanks around it. -/
def label (cs : List Char) (stages : List Stage) : String :=
  let hash := Blake3.hexDigits (Blake3.hash (Text.encode (Text.trim cs)))
  "|".intercalate (stages.map (·.type)) ++ "#" ++ String.ofList (hash.take 8)

def parse (expression : String) : Except Fault Pipeline := do
  let stages ← stages expression.toList
  pure ⟨label expression.toList stages, stages⟩

end Expression

def Failure.ofFault (fault : Expression.Fault) : Failure :=
  .parse fault.message fault.position?

/-- Reads an expression as a pipeline. -/
def Pipeline.parse (expression : String) : Except Failure Pipeline :=
  (Expression.parse expression).mapError Failure.ofFault

end Stageflow
