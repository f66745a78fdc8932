namespace Stageflow

/-- A number of a JSON value. Integers that fit 64 bits, signed or not, are kept as they are; every
    other number is a binary64 value, kept as its bits. -/
inductive Json.Number where
  | integer (value : Int)
  | real (bits : UInt64)
  deriving DecidableEq, Repr, Inhabited

/-- A JSON value. The readers build objects with their members in increasing order of names, each
    name once. -/
inductive Json where
  | null
  | bool (value : Bool)
  | number (value : Json.Number)
  | string (value : String)
  | array (items : List Json)
  | object (members : List (String × Json))
  deriving BEq, Repr, Inhabited

namespace Json

/-- A JSON text as it is written: members stay in their order, and a name may occur more than once.
    What is well formed but denotes no value, such as a number out of range, is `unreadable`. -/
inductive Document where
  | null
  | bool (value : Bool)
  | number (value : Number)
  | string (value : String)
  | array (items : List Document)
  | object (members : List (String × Document))
  | unreadable
  deriving BEq, Repr, Inhabited

mutual

/-- A value as the text that lists its members in order. -/
def toDocument : Json → Document
  | .null => .null
  | .bool b => .bool b
  | .number n => .number n
  | .string s => .string s
  | .array items => .array (listToDocument items)
  | .object members => .object (membersToDocument members)

def listToDocument : List Json → List Document
  | [] => []
  | item :: items => item.toDocument :: listToDocument items

def membersToDocument : List (String × Json) → List (String × Document)
  | [] => []
  | (name, value) :: members => (name, value.toDocument) :: membersToDocument members

end

end Json

end Stageflow
