import Stageflow.Decimal.Shortest
import Stageflow.Json.Basic

namespace Stageflow.Json

/-- Numbers with a fraction are written positionally from `0.00001` up to sixteen whole digits. -/
def realLayout : Decimal.Layout :=
  ⟨-5, 16⟩

/-- The text of a finite binary64 value, from its bits. -/
def realText (bits : UInt64) : List Char :=
  let magnitude := bits.toNat % Nat.pow 2 63
  let sign := if bits.toNat < Nat.pow 2 63 then [] else ['-']
  sign ++
    if magnitude = 0 then ['0', '.', '0'] else realLayout.write (Decimal.shortest magnitude)

def Number.text : Number → List Char
  | .integer (.ofNat n) => Nat.toDigits 10 n
  | .integer (.negSucc n) => '-' :: Nat.toDigits 10 (n + 1)
  | .real bits => realText bits

def hexDigit (n : Nat) : Char :=
  if n < 10 then Char.ofNat (48 + n) else Char.ofNat (87 + n)

/-- How a character is written inside a string: only quotes, backslashes and controls below the
    space are written otherwise than as they are. -/
def escapedChar (c : Char) : List Char :=
  if c = '"' then ['\\', '"']
  else if c = '\\' then ['\\', '\\']
  else if c = '\x08' then ['\\', 'b']
  else if c = '\t' then ['\\', 't']
  else if c = '\n' then ['\\', 'n']
  else if c = '\x0c' then ['\\', 'f']
  else if c = '\r' then ['\\', 'r']
  else if c.toNat < 0x20 then
    ['\\', 'u', '0', '0', hexDigit (c.toNat / 16), hexDigit (c.toNat % 16)]
  else [c]

def stringText (s : String) : List Char :=
  '"' :: s.toList.flatMap escapedChar ++ ['"']

namespace Document

mutual

/-- A text without any blanks. -/
def compactChars : Document → List Char
  | .null => ['n', 'u', 'l', 'l']
  | .bool true => ['t', 'r', 'u', 'e']
  | .bool false => ['f', 'a', 'l', 's', 'e']
  | .number n => n.text
  | .string s => stringText s
  | .array items => '[' :: compactItems items ++ [']']
  | .object members => '\x7b' :: compactMembers members ++ ['\x7d']
  | .unreadable => ['n', 'u', 'l', 'l']

def compactItems : List Document → List Char
  | [] => []
  | [item] => item.compactChars
  | item :: items => item.compactChars ++ ',' :: compactItems items

def compactMembers : List (String × Document) → List Char
  | [] => []
  | [(name, item)] => stringText name ++ ':' :: item.compactChars
  | (name, item) :: members =>
    stringText name ++ ':' :: item.compactChars ++ ',' :: compactMembers members

end

/-- A new line, indented by two spaces for every level. -/
def newLine (level : Nat) : List Char :=
  '\n' :: List.replicate (2 * level) ' '

mutual

/-- A text with one item or member a line, indented by two spaces for every enclosing array or
    object. Empty arrays and objects stay on one line. -/
def prettyChars (level : Nat) : Document → List Char
  | .null => ['n', 'u', 'l', 'l']
  | .bool true => ['t', 'r', 'u', 'e']
  | .bool false => ['f', 'a', 'l', 's', 'e']
  | .number n => n.text
  | .string s => stringText s
  | .array [] => ['[', ']']
  | .array (item :: items) => '[' :: prettyItems level (item :: items) ++ newLine level ++ [']']
  | .object [] => ['\x7b', '\x7d']
  | .object (member :: members) =>
    '\x7b' :: prettyMembers level (member :: members) ++ newLine level ++ ['\x7d']
  | .unreadable => ['n', 'u', 'l', 'l']

def prettyItems (level : Nat) : List Document → List Char
  | [] => []
  | [item] => newLine (level + 1) ++ item.prettyChars (level + 1)
  | item :: items =>
    newLine (level + 1) ++ item.prettyChars (level + 1) ++ ',' :: prettyItems level items

def prettyMembers (level : Nat) : List (String × Document) → List Char
  | [] => []
  | [(name, item)] =>
    newLine (level + 1) ++ stringText name ++ ':' :: ' ' :: item.prettyChars (level + 1)
  | (name, item) :: members =>
    newLine (level + 1) ++ stringText name ++ ':' :: ' ' :: item.prettyChars (level + 1) ++
      ',' :: prettyMembers level members

end

def compact (doc : Document) : String :=
  String.ofList doc.compactChars

def pretty (doc : Document) : String :=
  String.ofList (doc.prettyChars 0)

end Document

def compact (v : Json) : String :=
  v.toDocument.compact

end Stageflow.Json
