import Stageflow.Host.Machine
import Stageflow.Shell.Arithmetic

namespace Stageflow.Shell

open Host (Machine)

/-- Why the words of a condition make none. -/
inductive ConditionFault where
  | illegalNumber (text : String)
  | malformed (word : String)
  deriving DecidableEq, Repr

/-- What a condition says about one word. -/
def unaryCondition? (machine : Machine) (operator operand : String) : Option Bool :=
  let node? := (machine.files.locate machine.directory operand).toOption.bind (·.2)
  match operator with
  | "-n" => some !operand.isEmpty
  | "-z" => some operand.isEmpty
  | "-e" | "-r" | "-w" => some node?.isSome
  | "-d" => some (node? == some .directory)
  | "-f" =>
    some
      (match node? with
      | some (.file _) | some (.program _) => true
      | _ => false)
  | "-s" =>
    some
      (match node? with
      | some (.file content) => !content.isEmpty
      | some .directory | some (.program _) => true
      | _ => false)
  | "-x" =>
    some
      (match node? with
      | some .directory | some (.program _) => true
      | _ => false)
  | _ => none

/-- What a condition says about two words. -/
def binaryCondition? (left operator right : String) : Option (Except ConditionFault Bool) :=
  let compare (f : Int → Int → Bool) : Except ConditionFault Bool :=
    match decimalOf? left, decimalOf? right with
    | some a, some b => .ok (f a b)
    | none, _ => .error (.illegalNumber left)
    | _, none => .error (.illegalNumber right)
  match operator with
  | "=" | "==" => some (.ok (left == right))
  | "!=" => some (.ok (left != right))
  | "<" => some (.ok (left < right))
  | ">" => some (.ok (right < left))
  | "-eq" => some (compare (· == ·))
  | "-ne" => some (compare (· != ·))
  | "-lt" => some (compare (· < ·))
  | "-le" => some (compare (· ≤ ·))
  | "-gt" => some (compare (· > ·))
  | "-ge" => some (compare (· ≥ ·))
  | _ => none

/-- The value of a condition without `-a` and `-o`. -/
def simpleCondition (machine : Machine) : List String → Except ConditionFault Bool
  | [] => .ok false
  | [word] => .ok !word.isEmpty
  | ["!", word] => .ok word.isEmpty
  | [operator, operand] =>
    match unaryCondition? machine operator operand with
    | some b => .ok b
    | none => .error (.malformed operand)
  | [left, operator, right] =>
    match binaryCondition? left operator right with
    | some result => result
    | none =>
      if left = "!" then (simpleCondition machine [operator, right]).map (!·)
      else if left = "(" ∧ right = ")" then .ok !operator.isEmpty
      else .error (.malformed operator)
  | "!" :: words => (simpleCondition machine words).map (!·)
  | _ :: word :: _ => .error (.malformed word)

def splitWords (separator : String) : List String → List (List String)
  | [] => [[]]
  | word :: words =>
    if word = separator then [] :: splitWords separator words
    else
      match splitWords separator words with
      | [] => [[word]]
      | first :: rest => (word :: first) :: rest

/-- The value of a condition. Up to three words `-a` and `-o` can be operands, with more they join
    conditions, `-a` more tightly. -/
def condition (machine : Machine) (words : List String) : Except ConditionFault Bool :=
  if words.length ≤ 3 then simpleCondition machine words
  else do
    let either ← (splitWords "-o" words).mapM fun words => do
      let both ← (splitWords "-a" words).mapM (simpleCondition machine)
      pure (both.all id)
    pure (either.any id)

end Stageflow.Shell
