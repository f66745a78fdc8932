import Stageflow.Json.Value

namespace Stageflow.Json.Document

/-- The members of a record with the given names. A record is written as an object, where unknown
    members are passed over and a known one may occur only once, or as an array of its members in
    order, which may break off early. -/
def record? (names : List String) : Document → Option (String → Option Document)
  | .object members =>
    if names.all fun name => (members.filter (·.1 == name)).length ≤ 1 then
      some fun name => lookup name members
    else none
  | .array items =>
    if items.length ≤ names.length then some fun name => lookup name (names.zip items) else none
  | _ => none

def string? : Document → Option String
  | .string s => some s
  | _ => none

def bool? : Document → Option Bool
  | .bool b => some b
  | _ => none

/-- A natural number below 2^64. -/
def natural? : Document → Option Nat
  | .number (.integer (.ofNat n)) => if n < Nat.pow 2 64 then some n else none
  | _ => none

def items? : Document → Option (List Document)
  | .array items => some items
  | _ => none

/-- A member that may be missing or null. -/
def optional? {α : Type} (read : Document → Option α) : Option Document → Option (Option α)
  | none => some none
  | some .null => some none
  | some doc => (read doc).map some

/-- The name of an alternative without content: its name as a string, or an object whose only
    member has that name and is null. -/
def alternative? : Document → Option String
  | .string s => some s
  | .object [(name, .null)] => some name
  | _ => none

end Stageflow.Json.Document
