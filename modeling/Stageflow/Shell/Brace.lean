import Stageflow.Shell.Arithmetic
import Stageflow.Shell.Syntax

namespace Stageflow.Shell

/-- The character of a part that is one unquoted character. -/
def Part.plain? : Part → Option Char
  | .text false shown =>
    match shown.toList with
    | [c] => some c
    | _ => none
  | _ => none

/-- Splits what follows an opening brace at the commas of its own level, up to the brace that closes
    it. The first part of the result is the piece that was begun. -/
def splitBraces (depth : Nat) (begun : Word) : Word → Option (List Word × Word)
  | [] => none
  | part :: parts =>
    match part.plain?, depth with
    | some '\x7b', depth => splitBraces (depth + 1) (part :: begun) parts
    | some '\x7d', 0 => some ([begun.reverse], parts)
    | some '\x7d', depth + 1 => splitBraces depth (part :: begun) parts
    | some ',', 0 => (splitBraces 0 [] parts).map fun (pieces, rest) => (begun.reverse :: pieces, rest)
    | _, _ => splitBraces depth (part :: begun) parts

/-- The texts from one number or letter to another. -/
def braceRange? (piece : Word) : Option (List String) :=
  let cs := piece.filterMap Part.plain?
  let values (first last : Int) (step : Nat) : List Int :=
    let count := (first - last).natAbs / (max step 1) + 1
    (List.range count).map fun i : Nat =>
      if first ≤ last then first + i * max step 1 else first - i * max step 1
  let between (first last : String) (step : Nat) : Option (List String) :=
    match decimalOf? first, decimalOf? last, first.toList, last.toList with
    | some a, some b, _, _ => some ((values a b step).map toString)
    | none, none, [a], [b] =>
      if a.isAlpha && b.isAlpha then
        some ((values a.toNat b.toNat step).map fun n => String.singleton (Char.ofNat n.toNat))
      else none
    | _, _, _, _ => none
  if cs.length ≠ piece.length then none
  else
    match (String.ofList cs).splitOn ".." with
    | [first, last] => between first last 1
    | [first, last, step] => (decimalOf? step).bind fun step => between first last step.natAbs
    | _ => none

/-- The words that a word with braces stands for. -/
def expandBraces : Nat → Word → List Word
  | 0, word => [word]
  | _, [] => [[]]
  | fuel + 1, part :: parts =>
    let literal : List Word := (expandBraces fuel parts).map (part :: ·)
    if part.plain? = some '\x7b' then
      match splitBraces 0 [] parts with
      | none => literal
      | some ([piece], rest) =>
        match braceRange? piece with
        | none => literal
        | some texts =>
          let behind := expandBraces fuel rest
          texts.flatMap fun text => behind.map fun word => .text true text :: word
      | some (pieces, rest) =>
        let behind := expandBraces fuel rest
        (pieces.flatMap (expandBraces fuel)).flatMap fun front => behind.map (front ++ ·)
    else literal

/-- The words that a word stands for in a dialect. -/
def Dialect.braceWords (dialect : Dialect) (word : Word) : List Word :=
  match dialect with
  | .posix => [word]
  | .bash => expandBraces (word.length + 1) word

end Stageflow.Shell
