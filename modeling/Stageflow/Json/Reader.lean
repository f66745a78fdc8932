import Stageflow.Decimal.Binary
import Stageflow.Json.Value
import Stageflow.Text.Utf8

namespace Stageflow.Json

inductive Fault where
  | unfinishedList
  | unfinishedObject
  | unfinishedString
  | unfinishedValue
  | expectedColon
  | expectedListEnd
  | expectedObjectEnd
  | expectedWord
  | expectedValue
  | invalidEscape
  | invalidNumber
  | numberOutOfRange
  | controlCharacter
  | expectedName
  | loneSurrogate
  | trailingComma
  | trailingCharacters
  | unfinishedSurrogatePair
  | tooDeep
  deriving DecidableEq, Repr

def Fault.text : Fault → String
  | .unfinishedList => "EOF while parsing a list"
  | .unfinishedObject => "EOF while parsing an object"
  | .unfinishedString => "EOF while parsing a string"
  | .unfinishedValue => "EOF while parsing a value"
  | .expectedColon => "expected `:`"
  | .expectedListEnd => "expected `,` or `]`"
  | .expectedObjectEnd => "expected `,` or `\x7d`"
  | .expectedWord => "expected ident"
  | .expectedValue => "expected value"
  | .invalidEscape => "invalid escape"
  | .invalidNumber => "invalid number"
  | .numberOutOfRange => "number out of range"
  | .controlCharacter =>
    "control character (\\u0000-\\u001F) found while parsing a string"
  | .expectedName => "key must be a string"
  | .loneSurrogate => "lone leading surrogate in hex escape"
  | .trailingComma => "trailing comma"
  | .trailingCharacters => "trailing characters"
  | .unfinishedSurrogatePair => "unexpected end of hex escape"
  | .tooDeep => "recursion limit exceeded"

/-- Where reading stopped: the rest of the text, and how many bytes into it the fault is placed. -/
structure Stop where
  fault : Fault
  rest : List Char
  ahead : Nat
  deriving DecidableEq, Repr

/-- How a text is read. A strict reader refuses what denotes no value and what nests deeper than
    `depth`; a lenient one leaves both to whoever looks at the part in question. -/
inductive Mode where
  | strict (depth : Nat)
  | lenient
  deriving DecidableEq, Repr

/-- The mode inside one more array or object, if that is not too deep. -/
def Mode.enter : Mode → Option Mode
  | .strict 0 => none
  | .strict (depth + 1) => some (.strict depth)
  | .lenient => some .lenient

/-- The mode for a whole text: 127 arrays and objects may stand inside one another. -/
def Mode.default : Mode :=
  .strict 127

def isSpace (c : Char) : Bool :=
  c == ' ' || c == '\n' || c == '\t' || c == '\r'

def skipSpace (cs : List Char) : List Char :=
  cs.dropWhile isSpace

/-- The value of a hexadecimal digit of either case. -/
def hexValue? (c : Char) : Option Nat :=
  if '0' ≤ c ∧ c ≤ '9' then some (c.toNat - 48)
  else if 'a' ≤ c ∧ c ≤ 'f' then some (c.toNat - 87)
  else if 'A' ≤ c ∧ c ≤ 'F' then some (c.toNat - 55)
  else none

/-- The 16-bit number that four hexadecimal digits write. -/
def hexWord? (a b c d : Char) : Option Nat := do
  let a ← hexValue? a
  let b ← hexValue? b
  let c ← hexValue? c
  let d ← hexValue? d
  pure (((a * 16 + b) * 16 + c) * 16 + d)

/-- The fault of an escape that has no four hexadecimal digits: four bytes are taken as the digits
    where there are as many. -/
def badHex (cs : List Char) : Stop :=
  if Text.byteLength cs < 4 then ⟨.unfinishedString, [], 0⟩ else ⟨.invalidEscape, cs, 4⟩

/-- What a backslash before a character other than `u` stands for. -/
def simpleEscape? (c : Char) : Option Char :=
  if c = '"' ∨ c = '\\' ∨ c = '/' then some c
  else if c = 'b' then some '\x08'
  else if c = 'f' then some '\x0c'
  else if c = 'n' then some '\n'
  else if c = 'r' then some '\r'
  else if c = 't' then some '\t'
  else none

/-- The content of a string and what follows its closing quote. The content is `none` if a lenient
    reader met half of a surrogate pair. -/
abbrev StringRead :=
  Except Stop (Option (List Char) × List Char)

/-- Puts a character in front of a string that was read. -/
def StringRead.push (c : Char) (read : StringRead) : StringRead :=
  read.map fun (content, rest) => (content.map (c :: ·), rest)

/-- Marks a string that was read as denoting nothing. -/
def StringRead.spoil (read : StringRead) : StringRead :=
  read.map fun (_, rest) => (none, rest)

/-- The fault of what follows the first half of a surrogate pair and is no second half. -/
def unpairedFault (cs : List Char) : Stop :=
  match cs with
  | [] => ⟨.unfinishedString, [], 0⟩
  | b :: tail =>
    if b ≠ '\\' then ⟨.unfinishedSurrogatePair, b :: tail, 1⟩
    else
      match tail with
      | [] => ⟨.unfinishedString, [], 0⟩
      | u :: tail =>
        if u ≠ 'u' then ⟨.unfinishedSurrogatePair, u :: tail, 1⟩
        else
          match tail with
          | l₁ :: l₂ :: l₃ :: l₄ :: rest =>
            if (hexWord? l₁ l₂ l₃ l₄).isSome then ⟨.loneSurrogate, rest, 0⟩ else badHex tail
          | _ => badHex tail

/-- The second half of a surrogate pair, if an escape writes one. -/
def lowHalf? (b u l₁ l₂ l₃ l₄ : Char) : Option Nat :=
  if b = '\\' ∧ u = 'u' then
    (hexWord? l₁ l₂ l₃ l₄).filter fun m => 0xDC00 ≤ m ∧ m ≤ 0xDFFF
  else none

/-- The character of a surrogate pair. -/
def pairedChar (high low : Nat) : Char :=
  Char.ofNat ((high - 0xD800) * 0x400 + (low - 0xDC00) + 0x10000)

/-- Reads a string behind its opening quote. -/
def readString (lenient : Bool) : List Char → StringRead
  | [] => .error ⟨.unfinishedString, [], 0⟩
  | c :: cs =>
    if c = '"' then .ok (some [], cs)
    else if c = '\\' then
      match cs with
      | [] => .error ⟨.unfinishedString, [], 0⟩
      | e :: cs =>
        if e = 'u' then
          match cs with
          | h₁ :: h₂ :: h₃ :: h₄ :: cs' =>
            match hexWord? h₁ h₂ h₃ h₄ with
            | none => .error (badHex cs)
            | some n =>
              if 0xDC00 ≤ n ∧ n ≤ 0xDFFF then
                if lenient then (readString lenient cs').spoil
                else .error ⟨.loneSurrogate, cs', 0⟩
              else if 0xD800 ≤ n ∧ n ≤ 0xDBFF then
                match cs' with
                | b :: u :: l₁ :: l₂ :: l₃ :: l₄ :: tail =>
                  match lowHalf? b u l₁ l₂ l₃ l₄ with
                  | some m => (readString lenient tail).push (pairedChar n m)
                  | none =>
                    if lenient then
                      (readString lenient (b :: u :: l₁ :: l₂ :: l₃ :: l₄ :: tail)).spoil
                    else .error (unpairedFault cs')
                | rest =>
                  if lenient then (readString lenient rest).spoil else .error (unpairedFault rest)
              else (readString lenient cs').push (Char.ofNat n)
          | _ => .error (badHex cs)
        else
          match simpleEscape? e with
          | some x => (readString lenient cs).push x
          | none => .error ⟨.invalidEscape, e :: cs, 1⟩
    else if c.toNat < 0x20 then .error ⟨.controlCharacter, c :: cs, 1⟩
    else (readString lenient cs).push c

/-- Adds digits to a significand for as long as it stays below 2^64, and returns the digits that
    are left. -/
def absorb (significand : Nat) : List Char → Nat × List Char
  | [] => (significand, [])
  | d :: ds =>
    let next := significand * 10 + (d.toNat - 48)
    if next < Nat.pow 2 64 then absorb next ds else (significand, d :: ds)

/-- Reads an exponent's digits while its value stays below 2^31. The second part is the text after
    the digit that reached this limit, if one did. -/
def exponentValue (value : Nat) : List Char → Nat × Option (List Char)
  | [] => (value, none)
  | c :: cs =>
    if c.isDigit then
      let next := value * 10 + (c.toNat - 48)
      if next < Nat.pow 2 31 then exponentValue next cs else (value, some cs)
    else (value, none)

/-- A number that was read, `none` if it is out of range and the reader is lenient. -/
abbrev NumberRead :=
  Except Stop (Option Number × List Char)

/-- The number of a significand and an exponent, placed at the end of its text. -/
def realNumber (lenient negative : Bool) (significand : Nat) (exponent : Int) (rest : List Char) :
    NumberRead :=
  match Decimal.toBinary? significand exponent with
  | some magnitude => .ok (some (.real (Decimal.signedBits negative magnitude)), rest)
  | none => if lenient then .ok (none, rest) else .error ⟨.numberOutOfRange, rest, 0⟩

/-- Reads what follows an `e`. -/
def readExponent (lenient negative : Bool) (significand : Nat) (exponent : Int) (cs : List Char) :
    NumberRead :=
  let (minus, cs) :=
    match cs with
    | '+' :: cs => (false, cs)
    | '-' :: cs => (true, cs)
    | cs => (false, cs)
  match cs with
  | [] => .error ⟨.unfinishedValue, [], 0⟩
  | c :: _ =>
    if !c.isDigit then .error ⟨.invalidNumber, cs, 1⟩
    else
      let rest := cs.dropWhile Char.isDigit
      match exponentValue 0 cs with
      | (value, none) =>
        realNumber lenient negative significand
          (if minus then exponent - value else exponent + value) rest
      | (_, some after) =>
        if significand ≠ 0 ∧ !minus then
          if lenient then .ok (none, rest) else .error ⟨.numberOutOfRange, after, 0⟩
        else .ok (some (.real (Decimal.signedBits negative 0)), rest)

/-- Reads what follows the whole part of a number, whose digits that did not fit the significand
    are counted in `exponent`. -/
def readFraction (lenient negative : Bool) (significand exponent : Nat) (cs : List Char) :
    NumberRead :=
  match cs with
  | '.' :: cs =>
    let digits := cs.takeWhile Char.isDigit
    let rest := cs.dropWhile Char.isDigit
    if digits.isEmpty then
      match rest with
      | [] => .error ⟨.unfinishedValue, [], 0⟩
      | _ :: _ => .error ⟨.invalidNumber, rest, 1⟩
    else
      let (significand, left) := absorb significand digits
      let exponent : Int := exponent - (digits.length - left.length : Nat)
      match rest with
      | 'e' :: rest => readExponent lenient negative significand exponent rest
      | 'E' :: rest => readExponent lenient negative significand exponent rest
      | _ => realNumber lenient negative significand exponent rest
  | 'e' :: cs => readExponent lenient negative significand exponent cs
  | 'E' :: cs => readExponent lenient negative significand exponent cs
  | _ =>
    if exponent ≠ 0 then realNumber lenient negative significand exponent cs
    else if !negative then .ok (some (.integer significand), cs)
    else if significand = 0 ∨ Nat.pow 2 63 < significand then
      realNumber lenient negative significand 0 cs
    else .ok (some (.integer (-significand)), cs)

/-- Reads a number behind its sign. -/
def readNumber (lenient negative : Bool) (cs : List Char) : NumberRead :=
  match cs with
  | [] => .error ⟨.unfinishedValue, [], 0⟩
  | c :: rest =>
    if c = '0' then
      match rest with
      | d :: _ =>
        if d.isDigit then .error ⟨.invalidNumber, rest, 1⟩
        else readFraction lenient negative 0 0 rest
      | [] => readFraction lenient negative 0 0 rest
    else if c.isDigit then
      let digits := cs.takeWhile Char.isDigit
      let (significand, left) := absorb 0 digits
      readFraction lenient negative significand left.length (cs.dropWhile Char.isDigit)
    else .error ⟨.invalidNumber, cs, 1⟩

/-- Reads the rest of a word such as `null`. -/
def readWord : List Char → List Char → Except Stop (List Char)
  | [], cs => .ok cs
  | _ :: _, [] => .error ⟨.unfinishedValue, [], 0⟩
  | expected :: word, c :: cs =>
    if c = expected then readWord word cs else .error ⟨.expectedWord, c :: cs, 1⟩

def Mode.isLenient : Mode → Bool
  | .strict _ => false
  | .lenient => true

/-- The members of an object and what follows its closing brace. They are `none` if a lenient
    reader met a name that is no text. -/
abbrev MembersRead :=
  Except Stop (Option (List (String × Document)) × List Char)

/-- Puts a member in front of those that were read. -/
def MembersRead.push (name : Option (List Char)) (item : Document) (read : MembersRead) :
    MembersRead :=
  read.map fun (members, rest) =>
    match name, members with
    | some name, some members => (some ((String.ofList name, item) :: members), rest)
    | _, _ => (none, rest)

mutual

/-- Reads one value and returns the text behind it. Every call takes at least one character in two
    steps, so that twice the length of the text is fuel enough. -/
def readValue (mode : Mode) : Nat → List Char → Except Stop (Document × List Char)
  | 0, cs => .error ⟨.unfinishedValue, cs, 0⟩
  | fuel + 1, cs =>
    match skipSpace cs with
    | [] => .error ⟨.unfinishedValue, [], 0⟩
    | c :: rest =>
      if c = 'n' then (readWord ['u', 'l', 'l'] rest).map (Document.null, ·)
      else if c = 't' then (readWord ['r', 'u', 'e'] rest).map (Document.bool true, ·)
      else if c = 'f' then (readWord ['a', 'l', 's', 'e'] rest).map (Document.bool false, ·)
      else if c = '-' ∨ c.isDigit then
        let (negative, digits) := if c = '-' then (true, rest) else (false, c :: rest)
        match readNumber mode.isLenient negative digits with
        | .error stop => .error stop
        | .ok (some n, rest) => .ok (.number n, rest)
        | .ok (none, rest) => .ok (.unreadable, rest)
      else if c = '"' then
        match readString mode.isLenient rest with
        | .error stop => .error stop
        | .ok (some s, rest) => .ok (.string (String.ofList s), rest)
        | .ok (none, rest) => .ok (.unreadable, rest)
      else if c = '[' then
        match mode.enter with
        | none => .error ⟨.tooDeep, c :: rest, 1⟩
        | some inner =>
          match readItems inner true fuel rest with
          | .error stop => .error stop
          | .ok (items, rest) => .ok (.array items, rest)
      else if c = '\x7b' then
        match mode.enter with
        | none => .error ⟨.tooDeep, c :: rest, 1⟩
        | some inner =>
          match readMembers inner true fuel rest with
          | .error stop => .error stop
          | .ok (some members, rest) => .ok (.object members, rest)
          | .ok (none, rest) => .ok (.unreadable, rest)
      else .error ⟨.expectedValue, c :: rest, 1⟩

/-- Reads the items of an array and its closing bracket. Before the `first` item there is no
    comma. -/
def readItems (mode : Mode) (first : Bool) :
    Nat → List Char → Except Stop (List Document × List Char)
  | 0, cs => .error ⟨.unfinishedList, cs, 0⟩
  | fuel + 1, cs =>
    match skipSpace cs with
    | [] => .error ⟨.unfinishedList, [], 0⟩
    | c :: rest =>
      if c = ']' then .ok ([], rest)
      else if first then
        match readValue mode fuel (c :: rest) with
        | .error stop => .error stop
        | .ok (item, rest) =>
          match readItems mode false fuel rest with
          | .error stop => .error stop
          | .ok (items, rest) => .ok (item :: items, rest)
      else if c = ',' then
        match skipSpace rest with
        | [] => .error ⟨.unfinishedValue, [], 0⟩
        | d :: rest =>
          if d = ']' then .error ⟨.trailingComma, d :: rest, 1⟩
          else
            match readValue mode fuel (d :: rest) with
            | .error stop => .error stop
            | .ok (item, rest) =>
              match readItems mode false fuel rest with
              | .error stop => .error stop
              | .ok (items, rest) => .ok (item :: items, rest)
      else .error ⟨.expectedListEnd, c :: rest, 1⟩

/-- Reads the members of an object and its closing brace. -/
def readMembers (mode : Mode) (first : Bool) : Nat → List Char → MembersRead
  | 0, cs => .error ⟨.unfinishedObject, cs, 0⟩
  | fuel + 1, cs =>
    match skipSpace cs with
    | [] => .error ⟨.unfinishedObject, [], 0⟩
    | c :: rest =>
      if c = '\x7d' then .ok (some [], rest)
      else if first then
        if c = '"' then readMember mode fuel rest else .error ⟨.expectedName, c :: rest, 1⟩
      else if c = ',' then
        match skipSpace rest with
        | [] => .error ⟨.unfinishedValue, [], 0⟩
        | d :: rest =>
          if d = '"' then readMember mode fuel rest
          else if d = '\x7d' then .error ⟨.trailingComma, d :: rest, 1⟩
          else .error ⟨.expectedName, d :: rest, 1⟩
      else .error ⟨.expectedObjectEnd, c :: rest, 1⟩

/-- Reads a member behind the opening quote of its name, and the members after it. -/
def readMember (mode : Mode) : Nat → List Char → MembersRead
  | 0, cs => .error ⟨.unfinishedObject, cs, 0⟩
  | fuel + 1, cs =>
    match readString mode.isLenient cs with
    | .error stop => .error stop
    | .ok (name, rest) =>
      match skipSpace rest with
      | [] => .error ⟨.unfinishedObject, [], 0⟩
      | c :: rest =>
        if c ≠ ':' then .error ⟨.expectedColon, c :: rest, 1⟩
        else
          match readValue mode fuel rest with
          | .error stop => .error stop
          | .ok (item, rest) => (readMembers mode false fuel rest).push name item

end

/-- Reads a whole text, which holds one value and nothing but spaces around it. -/
def readText (mode : Mode) (cs : List Char) : Except Stop Document :=
  match readValue mode (3 * cs.length + 3) cs with
  | .error stop => .error stop
  | .ok (doc, rest) =>
    match skipSpace rest with
    | [] => .ok doc
    | c :: rest => .error ⟨.trailingCharacters, c :: rest, 1⟩

/-- A fault with its place: lines count from one, columns count the bytes before the place. -/
structure ReadError where
  fault : Fault
  line : Nat
  column : Nat
  deriving DecidableEq, Repr

def ReadError.message (e : ReadError) : String :=
  s!"{e.fault.text} at line {e.line} column {e.column}"

/-- Places a stop in the text that was read. -/
def Stop.locate (text : List Char) (stop : Stop) : ReadError :=
  let bytes := Text.encode text
  let before := bytes.take (bytes.length - Text.byteLength stop.rest + stop.ahead)
  { fault := stop.fault
    line := before.count 10 + 1
    column := (before.reverse.takeWhile (· != 10)).length }

def parse (text : String) : Except ReadError Json :=
  match readText .default text.toList with
  | .ok doc => .ok doc.value
  | .error stop => .error (stop.locate text.toList)

/-- Reads a text for a reader of records, who looks only at the members it knows. -/
def Document.parse? (text : String) : Option Document :=
  (readText .lenient text.toList).toOption

end Stageflow.Json
