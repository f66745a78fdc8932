import Stageflow.Yaml.Node

namespace Stageflow.Yaml.Node

/-- Whether a text written without quotes means that there is no value. -/
def isNullText (text : String) : Bool :=
  text == "null" || text == "Null" || text == "NULL" || text == "~"

/-- Every scalar is a text, whatever else it could be. -/
def string? : Node → Option String
  | .scalar _ _ text => some text
  | _ => none

/-- The text of a scalar that can be something other than a text: one without quotes, or a literal
    one with the tag of that other type. -/
def bare? (type : String) : Node → Option String
  | .scalar _ .plain text => some text
  | .scalar (some tag) .literal text => if tag = standardTag type then some text else none
  | _ => none

def bool? (node : Node) : Option Bool := do
  let text ← node.bare? "bool"
  if ["true", "True", "TRUE"].contains text then pure true
  else if ["false", "False", "FALSE"].contains text then pure false
  else none

/-- Reads digits of a base from two to sixteen. -/
def digits? (base : Nat) (digits : List Char) : Option Nat :=
  if digits.isEmpty then none
  else
    digits.foldlM
      (fun n c => (Json.hexValue? c).bind fun d => if d < base then some (n * base + d) else none) 0

/-- A natural number below 2^64: decimal without leading zeros, or behind `0x`, `0o` or `0b`, each
    with or without a plus sign. -/
def natural? (node : Node) : Option Nat := do
  let text ← node.bare? "int"
  let cs := if text.toList.head? = some '+' then text.toList.tail else text.toList
  let n ←
    match cs with
    | '0' :: 'x' :: ds => digits? 16 ds
    | '0' :: 'o' :: ds => digits? 8 ds
    | '0' :: 'b' :: ds => digits? 2 ds
    | '0' :: _ :: _ => none
    | ds => digits? 10 ds
  if n < Nat.pow 2 64 then pure n else none

/-- Whether nothing is written, which stands for a sequence or mapping without content. -/
def isMissing : Node → Bool
  | .scalar _ .plain text => text.isEmpty
  | _ => false

def items? : Node → Option (List Node)
  | .sequence items => some items
  | node => if node.isMissing then some [] else none

def entries? : Node → Option (List (Node × Node))
  | .mapping entries => some entries
  | node => if node.isMissing then some [] else none

/-- The entries of a mapping by the texts of their keys. -/
def named? (node : Node) : Option (List (String × Node)) := do
  (← node.entries?).mapM fun entry => entry.1.string?.map (·, entry.2)

/-- The entries of a record with the given names. Other entries are passed over, but none of the
    names may occur twice. -/
def record? (names : List String) (node : Node) : Option (String → Option Node) := do
  let entries ← node.named?
  if names.all fun name => (entries.filter (·.1 == name)).length ≤ 1 then
    pure fun name => lookup name entries
  else none

/-- An entry of a record that may be left out. -/
def orElse? {α : Type} (default : α) (read : Node → Option α) : Option Node → Option α
  | none => some default
  | some node => read node

/-- A value that may be null. -/
def nullable? {α : Type} (read : Node → Option α) (node : Node) : Option (Option α) :=
  match node with
  | .scalar none .plain text =>
    if text.isEmpty || isNullText text then some none else (read node).map some
  | .scalar (some tag) .plain text =>
    if tag = standardTag "null" then if isNullText text then some none else none
    else (read node).map some
  | _ => (read node).map some

/-- The name of an alternative without content: a scalar, or a tag of one's own on a null. -/
def alternative? : Node → Option String
  | .scalar (some tag) style text =>
    match tag.toList with
    | '!' :: name =>
      if style = .plain ∧ (text.isEmpty ∨ isNullText text) then
        some (if name.isEmpty then "!" else String.ofList name)
      else none
    | _ => some text
  | .scalar none _ text => some text
  | _ => none

end Stageflow.Yaml.Node
