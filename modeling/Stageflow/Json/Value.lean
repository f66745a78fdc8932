import Stageflow.Table
import Stageflow.Json.Basic

namespace Stageflow.Json.Document

mutual

/-- The value that a text denotes: members are ordered by name, and of members with one name the
    last one counts. -/
def value : Document → Json
  | .null => .null
  | .bool b => .bool b
  | .number n => .number n
  | .string s => .string s
  | .array items => .array (listValue items)
  | .object members => .object (membersValue [] members)
  | .unreadable => .null

def listValue : List Document → List Json
  | [] => []
  | item :: items => item.value :: listValue items

def membersValue (earlier : List (String × Json)) : List (String × Document) → List (String × Json)
  | [] => earlier
  | (name, item) :: members => membersValue (insertEntry name item.value earlier) members

end

mutual

/-- Whether everything in a text denotes a value. -/
def isReadable : Document → Bool
  | .array items => listIsReadable items
  | .object members => membersAreReadable members
  | .unreadable => false
  | _ => true

def listIsReadable : List Document → Bool
  | [] => true
  | item :: items => item.isReadable && listIsReadable items

def membersAreReadable : List (String × Document) → Bool
  | [] => true
  | (_, item) :: members => item.isReadable && membersAreReadable members

end

mutual

/-- How many arrays and objects stand inside one another at most. -/
def depth : Document → Nat
  | .array items => listDepth items + 1
  | .object members => membersDepth members + 1
  | _ => 0

def listDepth : List Document → Nat
  | [] => 0
  | item :: items => max item.depth (listDepth items)

def membersDepth : List (String × Document) → Nat
  | [] => 0
  | (_, item) :: members => max item.depth (membersDepth members)

end

end Stageflow.Json.Document
