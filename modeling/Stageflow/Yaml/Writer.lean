import Stageflow.Json.Writer
import Stageflow.Toml.Reader
import Stageflow.Yaml.Record

namespace Stageflow.Yaml

/-- Whether a text without quotes would be a number with a fraction or an exponent, or an integer
    of any size. -/
def isRealText (cs : List Char) : Bool :=
  let digits := cs.takeWhile Char.isDigit
  let (fraction, rest) :=
    match cs.dropWhile Char.isDigit with
    | '.' :: rest => (rest.takeWhile Char.isDigit, rest.dropWhile Char.isDigit)
    | rest => ([], rest)
  let exponent? : Option Int :=
    match rest with
    | [] => some 0
    | e :: rest =>
      if e = 'e' ∨ e = 'E' then
        let (negative, ds) := Toml.readSign rest
        if ds.isEmpty ∨ !ds.all Char.isDigit then none
        else some (if negative then -Toml.decimal ds else Toml.decimal ds)
      else none
  match exponent? with
  | none => false
  | some exponent =>
    !(digits ++ fraction).isEmpty &&
      !Toml.overflows (Toml.decimal (digits ++ fraction)) (exponent - fraction.length)

/-- Whether a text without quotes would be a number. -/
def isNumberText (text : String) : Bool :=
  let cs := text.toList
  let (negative, unsigned) := Toml.readSign cs
  let limit := if negative then Nat.pow 2 127 + 1 else Nat.pow 2 128
  let based (base : Nat) (ds : List Char) : Bool := (Node.digits? base ds).any (· < limit)
  match unsigned with
  | '0' :: 'x' :: ds => based 16 ds
  | '0' :: 'o' :: ds => based 8 ds
  | '0' :: 'b' :: ds => based 2 ds
  | _ =>
    [".inf", ".Inf", ".INF"].contains (String.ofList unsigned) ||
      [".nan", ".NaN", ".NAN"].contains text || isRealText unsigned

/-- Whether a text without quotes would not be read as a text. -/
def isAmbiguous (text : String) : Bool :=
  text.isEmpty || Node.isNullText text ||
    ["true", "True", "TRUE", "false", "False", "FALSE"].contains text || isNumberText text

/-- Whether a character can stand in a scalar as it is. -/
def isPrintable (c : Char) : Bool :=
  let n := c.toNat
  n == 0x0A || (0x20 ≤ n && n ≤ 0x7E) || (0xA0 ≤ n && n ≤ 0xFFFD && n ≠ 0xFEFF)

/-- Whether a word may begin or end at a character or at the end of a text. -/
def isGapAt (c : Option Char) : Bool :=
  c.all fun c => isBlank c || isBreak c || c == '\x00'

/-- Whether characters behind the first, which `before` precedes, mean something outside quotes: a
    colon in front of a gap, or a number sign behind one. -/
def hasInnerIndicator (before : Char) : List Char → Bool
  | [] => false
  | c :: cs =>
    (c == ':' && isGapAt cs.head?) || (c == '#' && isGapAt (some before)) || hasInnerIndicator c cs

/-- Whether a text has a character that means something outside quotes, where it stands. -/
def hasIndicator : List Char → Bool
  | [] => false
  | c :: cs =>
    "#,[]\x7b\x7d&*!|>'\"%@`".toList.contains c ||
      ((c == '?' || c == ':' || c == '-') && isGapAt cs.head?) ||
      (c :: cs.take 2 == ['-', '-', '-']) || (c :: cs.take 2 == ['.', '.', '.']) ||
      hasInnerIndicator c cs

/-- Whether two neighbours of which the first and the second satisfy conditions occur in a text. -/
def hasNeighbours (p q : Char → Bool) (cs : List Char) : Bool :=
  (cs.zip cs.tail).any fun pair => p pair.1 && q pair.2

def isSpace (c : Char) : Bool :=
  c == ' '

/-- How a text is written. Texts of several lines become blocks; what would not be read as a text
    gets quotes; and double quotes are left to what can be written in no other way. -/
def styleOf (text : String) : Style :=
  let cs := text.toList
  if cs.any (!isPrintable ·) || hasNeighbours isSpace isBreak cs then .doubleQuoted
  else if cs.contains '\n' then
    if cs.getLast?.any isSpace then .doubleQuoted else .literal
  else
    let atEdge (p : Char → Bool) : Bool := cs.head?.any p || cs.getLast?.any p
    if !isAmbiguous text && !atEdge isSpace && !cs.any isBreak && !hasIndicator cs then .plain
    else if hasNeighbours isBreak isSpace cs then .doubleQuoted
    else .singleQuoted

/-- A character between double quotes. -/
def escapedChar (c : Char) : List Char :=
  let digits (width : Nat) : List Char :=
    let ds := (Nat.toDigits 16 c.toNat).map Char.toUpper
    List.replicate (width - ds.length) '0' ++ ds
  match c with
  | '\x00' => ['\\', '0']
  | '\x07' => ['\\', 'a']
  | '\x08' => ['\\', 'b']
  | '\t' => ['\\', 't']
  | '\n' => ['\\', 'n']
  | '\x0b' => ['\\', 'v']
  | '\x0c' => ['\\', 'f']
  | '\r' => ['\\', 'r']
  | '\x1b' => ['\\', 'e']
  | '"' => ['\\', '"']
  | '\\' => ['\\', '\\']
  | '\u0085' => ['\\', 'N']
  | '\u2028' => ['\\', 'L']
  | '\u2029' => ['\\', 'P']
  | c =>
    if isPrintable c then [c]
    else if c.toNat ≤ 0xFF then '\\' :: 'x' :: digits 2
    else if c.toNat ≤ 0xFFFF then '\\' :: 'u' :: digits 4
    else '\\' :: 'U' :: digits 8

def spaces (n : Nat) : List Char :=
  List.replicate n ' '

/-- A text whose lines are indented, except for empty ones. -/
def indented (indent : Nat) (atStart : Bool) : List Char → List Char
  | [] => []
  | c :: cs =>
    if isBreak c then c :: indented indent true cs
    else if atStart then spaces indent ++ c :: indented indent false cs
    else c :: indented indent false cs

/-- The hints of a block: the indentation, where it cannot be seen from the first line, and whether
    there is no break at the end or more than one. -/
def blockHints (cs : List Char) : List Char :=
  (if cs.head?.any fun c => isSpace c || isBreak c then ['2'] else []) ++
    match cs.reverse with
    | [] => ['-']
    | last :: rest =>
      if !isBreak last then ['-']
      else if rest.head?.all isBreak then ['+']
      else []

/-- A text as it is written in a block with the given indentation. -/
def scalarText (indent : Nat) (text : String) : List Char :=
  let cs := text.toList
  match styleOf text with
  | .plain => cs
  | .singleQuoted =>
    let doubled := cs.flatMap fun c => if c = '\'' then [c, c] else [c]
    let closing := if cs.getLast?.any isBreak then spaces (indent + 2) else []
    '\'' :: indented (indent + 2) false doubled ++ closing ++ ['\'']
  | .doubleQuoted => '"' :: cs.flatMap escapedChar ++ ['"']
  | .literal | .folded => '|' :: blockHints cs ++ '\n' :: indented (indent + 2) true cs

/-- Ends a line, unless it has ended. -/
def endLine (cs : List Char) : List Char :=
  if cs.getLast?.any isBreak then cs else cs ++ ['\n']

/-- The longest key that is written on one line with its value, in bytes. -/
def keyLimit : Nat := 128

def isSimpleKey (name : String) : Bool :=
  !name.toList.any isBreak && name.utf8ByteSize ≤ keyLimit

mutual

/-- A value behind the colon of a simple key; blocks start on the next line. -/
def valueText (indent : Nat) : Json.Document → List Char
  | .object (member :: members) => '\n' :: membersText (indent + 2) (member :: members)
  | .array (item :: items) => '\n' :: itemsText indent (item :: items)
  | doc => ' ' :: leafText indent doc

/-- A value behind another indicator; blocks start on the same line. -/
def compactText (indent : Nat) : Json.Document → List Char
  | .object (member :: members) =>
    ' ' :: (membersText (indent + 2) (member :: members)).drop (indent + 2)
  | .array (item :: items) => ' ' :: (itemsText (indent + 2) (item :: items)).drop (indent + 2)
  | doc => ' ' :: leafText indent doc

/-- A value that is no block, with the end of its line. -/
def leafText (indent : Nat) : Json.Document → List Char
  | .null | .unreadable => "null\n".toList
  | .bool true => "true\n".toList
  | .bool false => "false\n".toList
  | .number n => n.text ++ ['\n']
  | .string s => endLine (scalarText indent s)
  | .array _ => "[]\n".toList
  | .object _ => "\x7b\x7d\n".toList

def membersText (indent : Nat) : List (String × Json.Document) → List Char
  | [] => []
  | (name, doc) :: members =>
    let member :=
      if isSimpleKey name then scalarText indent name ++ ':' :: valueText indent doc
      else
        '?' :: ' ' :: endLine (scalarText indent name) ++ spaces indent ++
          ':' :: compactText indent doc
    spaces indent ++ member ++ membersText indent members

def itemsText (indent : Nat) : List Json.Document → List Char
  | [] => []
  | item :: items => spaces indent ++ '-' :: compactText indent item ++ itemsText indent items

end

/-- A document in block style. -/
def write (doc : Json.Document) : String :=
  String.ofList
    (match doc with
    | .object (member :: members) => membersText 0 (member :: members)
    | .array (item :: items) => itemsText 0 (item :: items)
    | doc => leafText 0 doc)

end Stageflow.Yaml
